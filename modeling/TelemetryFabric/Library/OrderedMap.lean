import Mathlib.Algebra.Order.Ring.Nat
import Mathlib.Data.List.Basic

/-! Finite maps kept as the list of their bindings in increasing key order. The list
itself is the iteration order, so a loop over the map is a recursion on `entries`. -/

namespace TelemetryFabric.Library

structure OrderedMap (κ ν : Type) [LinearOrder κ] where
  entries : List (κ × ν)
  ordered : entries.Pairwise (fun first second => first.1 < second.1)

namespace OrderedMap

variable {κ ν : Type} [LinearOrder κ]

@[ext] theorem ext_entries {first second : OrderedMap κ ν}
    (same : first.entries = second.entries) : first = second := by
  cases first
  cases second
  cases same
  rfl

instance [DecidableEq ν] : DecidableEq (OrderedMap κ ν) :=
  fun first second => decidable_of_iff (first.entries = second.entries)
    ⟨ext_entries, congrArg entries⟩

def empty : OrderedMap κ ν := ⟨[], List.Pairwise.nil⟩

def keys (map : OrderedMap κ ν) : List κ := map.entries.map Prod.fst

def find? (map : OrderedMap κ ν) (key : κ) : Option ν :=
  (map.entries.find? (fun entry => entry.1 = key)).map Prod.snd

/-- Insert or replace one binding, keeping the order. -/
def place (key : κ) (value : ν) : List (κ × ν) → List (κ × ν)
  | [] => [(key, value)]
  | entry :: rest =>
      if key < entry.1 then (key, value) :: entry :: rest
      else if entry.1 < key then entry :: place key value rest
      else (key, value) :: rest

theorem mem_place {key : κ} {value : ν} {entries : List (κ × ν)} {entry : κ × ν}
    (member : entry ∈ place key value entries) : entry = (key, value) ∨ entry ∈ entries := by
  induction entries with
  | nil => simpa [place] using member
  | cons head rest ih =>
    unfold place at member
    split_ifs at member with before after
    · simpa using member
    · rcases List.mem_cons.mp member with same | later
      · exact Or.inr (by simp [same])
      · exact (ih later).imp_right (List.mem_cons_of_mem _)
    · rcases List.mem_cons.mp member with same | later
      · exact Or.inl same
      · exact Or.inr (List.mem_cons_of_mem _ later)

theorem place_ordered (key : κ) (value : ν) (entries : List (κ × ν))
    (ordered : entries.Pairwise (fun first second => first.1 < second.1)) :
    (place key value entries).Pairwise (fun first second => first.1 < second.1) := by
  induction entries with
  | nil => simp [place]
  | cons head rest ih =>
    obtain ⟨first, tail⟩ := List.pairwise_cons.mp ordered
    unfold place
    split_ifs with before after
    · refine List.pairwise_cons.mpr ⟨?_, ordered⟩
      intro entry member
      rcases List.mem_cons.mp member with same | later
      · exact same ▸ before
      · exact before.trans (first entry later)
    · refine List.pairwise_cons.mpr ⟨?_, ih tail⟩
      intro entry member
      rcases mem_place member with same | old
      · exact same ▸ after
      · exact first entry old
    · have same : key = head.1 := le_antisymm (not_lt.mp after) (not_lt.mp before)
      exact List.pairwise_cons.mpr ⟨fun entry member => same ▸ first entry member, tail⟩

def insert (map : OrderedMap κ ν) (key : κ) (value : ν) : OrderedMap κ ν :=
  ⟨place key value map.entries, place_ordered key value map.entries map.ordered⟩

def erase (map : OrderedMap κ ν) (key : κ) : OrderedMap κ ν :=
  ⟨map.entries.filter (fun entry => entry.1 ≠ key), map.ordered.filter _⟩

/-- The bindings strictly below a key. -/
def below (map : OrderedMap κ ν) (key : κ) : List (κ × ν) :=
  map.entries.filter (fun entry => entry.1 < key)

/-- The bindings at or above a key. -/
def since (map : OrderedMap κ ν) (key : κ) : List (κ × ν) :=
  map.entries.filter (fun entry => key ≤ entry.1)

/-- The bindings strictly above a key. -/
def above (map : OrderedMap κ ν) (key : κ) : List (κ × ν) :=
  map.entries.filter (fun entry => key < entry.1)

@[simp] theorem erase_entries (map : OrderedMap κ ν) (key : κ) :
    (map.erase key).entries = map.entries.filter (fun entry => entry.1 ≠ key) := rfl

@[simp] theorem insert_entries (map : OrderedMap κ ν) (key : κ) (value : ν) :
    (map.insert key value).entries = place key value map.entries := rfl

theorem find_entries (entries : List (κ × ν))
    (ordered : entries.Pairwise (fun first second => first.1 < second.1)) (key : κ) (value : ν) :
    (entries.find? (fun entry => entry.1 = key)).map Prod.snd = some value ↔
      (key, value) ∈ entries := by
  induction entries with
  | nil => simp
  | cons head rest ih =>
    obtain ⟨first, tail⟩ := List.pairwise_cons.mp ordered
    rcases head with ⟨headKey, headValue⟩
    by_cases same : headKey = key
    · subst same
      have fresh : (headKey, value) ∉ rest := fun later => lt_irrefl _ (first (headKey, value) later)
      simp [fresh, eq_comm]
    · have skip : (key, value) ≠ (headKey, headValue) := fun h => same (congrArg Prod.fst h).symm
      simpa [same, skip] using ih tail

theorem find?_eq_some_iff (map : OrderedMap κ ν) (key : κ) (value : ν) :
    map.find? key = some value ↔ (key, value) ∈ map.entries :=
  find_entries map.entries map.ordered key value

theorem find?_eq_none_iff (map : OrderedMap κ ν) (key : κ) :
    map.find? key = none ↔ key ∉ map.keys := by
  simp [find?, keys]
  grind

theorem mem_keys_iff (map : OrderedMap κ ν) (key : κ) :
    key ∈ map.keys ↔ (map.find? key).isSome := by
  have absent := map.find?_eq_none_iff key
  cases found : map.find? key with
  | none => simpa [found] using absent.mp found
  | some value =>
    have present : (key, value) ∈ map.entries := (map.find?_eq_some_iff key value).mp found
    simpa [keys] using ⟨value, present⟩

theorem find?_place (entries : List (κ × ν)) (key other : κ) (value : ν) :
    (place key value entries).find? (fun entry => entry.1 = other) =
      if other = key then some (key, value) else entries.find? (fun entry => entry.1 = other) := by
  induction entries with
  | nil => by_cases same : other = key <;> simp [place, same, eq_comm]
  | cons head rest ih =>
    unfold place
    by_cases before : key < head.1
    · rw [if_pos before]
      by_cases same : other = key
      · simp [same]
      · simp [same, Ne.symm same]
    · rw [if_neg before]
      by_cases after : head.1 < key
      · rw [if_pos after, List.find?_cons, ih, List.find?_cons]
        by_cases same : other = key
        · simp [same, after.ne]
        · simp [same]
      · have equal : key = head.1 := le_antisymm (not_lt.mp after) (not_lt.mp before)
        rw [if_neg after]
        by_cases same : other = key
        · simp [same]
        · simp [same, Ne.symm same, ← equal]

theorem find?_insert (map : OrderedMap κ ν) (key other : κ) (value : ν) :
    (map.insert key value).find? other = if other = key then some value else map.find? other := by
  unfold find?
  rw [insert_entries, find?_place]
  split_ifs <;> rfl

@[simp] theorem find?_insert_self (map : OrderedMap κ ν) (key : κ) (value : ν) :
    (map.insert key value).find? key = some value := by
  rw [find?_insert, if_pos rfl]

theorem find?_erase (map : OrderedMap κ ν) (key other : κ) :
    (map.erase key).find? other = if other = key then none else map.find? other := by
  split_ifs with same
  · subst same
    rw [find?_eq_none_iff]
    simp [keys]
  · unfold find?
    rw [erase_entries, List.find?_filter]
    congr 1
    congr 1
    funext entry
    by_cases here : entry.1 = other <;> simp [here, same]

@[simp] theorem find?_empty (key : κ) : (empty : OrderedMap κ ν).find? key = none := rfl

theorem mem_keys_insert (map : OrderedMap κ ν) (key other : κ) (value : ν) :
    other ∈ (map.insert key value).keys ↔ other = key ∨ other ∈ map.keys := by
  rw [mem_keys_iff, mem_keys_iff, find?_insert]
  by_cases same : other = key <;> simp [same]

theorem mem_keys_erase (map : OrderedMap κ ν) (key other : κ) :
    other ∈ (map.erase key).keys ↔ other ≠ key ∧ other ∈ map.keys := by
  rw [mem_keys_iff, mem_keys_iff, find?_erase]
  by_cases same : other = key <;> simp [same]

theorem nodup_keys (map : OrderedMap κ ν) : map.keys.Nodup := by
  apply List.pairwise_map.mpr
  exact map.ordered.imp ne_of_lt

/-- Maps with the same bindings are equal: the order leaves no freedom. -/
theorem ext_find? {first second : OrderedMap κ ν}
    (same : ∀ key, first.find? key = second.find? key) : first = second := by
  have members : ∀ entry, entry ∈ first.entries ↔ entry ∈ second.entries := by
    intro entry
    rw [← first.find?_eq_some_iff entry.1 entry.2, ← second.find?_eq_some_iff entry.1 entry.2, same]
  apply ext_entries
  refine List.Perm.eq_of_pairwise (fun a b _ _ ab ba => absurd ab (lt_asymm ba))
    first.ordered second.ordered ?_
  refine (List.perm_ext_iff_of_nodup ?_ ?_).mpr members
  · exact first.ordered.imp (fun less equal => absurd (congrArg Prod.fst equal) less.ne)
  · exact second.ordered.imp (fun less equal => absurd (congrArg Prod.fst equal) less.ne)

theorem place_last (older : List (κ × ν)) (key : κ) (old value : ν)
    (below : ∀ entry ∈ older, entry.1 < key) :
    place key value (older ++ [(key, old)]) = older ++ [(key, value)] := by
  induction older with
  | nil => simp [place]
  | cons head rest ih =>
    have first := below head (by simp)
    rw [List.cons_append, place, if_neg first.not_gt, if_pos first,
      ih (fun entry member => below entry (List.mem_cons_of_mem _ member))]
    rfl

theorem place_after (entries : List (κ × ν)) (key : κ) (value : ν)
    (below : ∀ entry ∈ entries, entry.1 < key) :
    place key value entries = entries ++ [(key, value)] := by
  induction entries with
  | nil => rfl
  | cons head rest ih =>
    have first := below head (by simp)
    rw [place, if_neg first.not_gt, if_pos first,
      ih (fun entry member => below entry (List.mem_cons_of_mem _ member))]
    rfl

/-- Rewriting a binding that is there changes it in its place. -/
theorem place_of_mem (entries : List (κ × ν)) (key : κ) (old value : ν)
    (ordered : entries.Pairwise (fun first second => first.1 < second.1))
    (member : (key, old) ∈ entries) :
    place key value entries = entries.map (fun entry => if entry.1 = key then (key, value) else entry) := by
  induction entries with
  | nil => cases member
  | cons head rest ih =>
    obtain ⟨first, tail⟩ := List.pairwise_cons.mp ordered
    rcases List.mem_cons.mp member with same | later
    · subst same
      have others : rest.map (fun entry => if entry.1 = key then (key, value) else entry) = rest := by
        refine (List.map_congr_left ?_).trans (List.map_id rest)
        intro entry inside
        exact if_neg (first entry inside).ne'
      simp [place, others]
    · have below : head.1 < key := first (key, old) later
      rw [place, if_neg below.not_gt, if_pos below, ih tail later, List.map_cons, if_neg below.ne]

/-- A key cuts the listing into the bindings below it and those from it on. -/
theorem partition_at (map : OrderedMap κ ν) (key : κ) :
    map.entries = map.below key ++ map.since key := by
  obtain ⟨entries, ordered⟩ := map
  simp only [since, below]
  induction entries with
  | nil => rfl
  | cons head rest ih =>
    obtain ⟨first, tail⟩ := List.pairwise_cons.mp ordered
    by_cases low : head.1 < key
    · rw [List.filter_cons_of_pos (by simpa using low),
        List.filter_cons_of_neg (by simpa using low), List.cons_append, ← ih tail]
    · have rest_above : ∀ entry ∈ rest, key ≤ entry.1 :=
        fun entry member => (not_lt.mp low).trans (first entry member).le
      have none_below : rest.filter (fun entry => decide (entry.1 < key)) = [] :=
        List.filter_eq_nil_iff.mpr (by simpa using rest_above)
      have all_above : rest.filter (fun entry => decide (key ≤ entry.1)) = rest :=
        List.filter_eq_self.mpr (by simpa using rest_above)
      rw [List.filter_cons_of_neg (by simpa using low), none_below,
        List.filter_cons_of_pos (by simpa using not_lt.mp low), all_above, List.nil_append]

theorem since_of_find?_none (map : OrderedMap κ ν) {key : κ} (absent : map.find? key = none) :
    map.since key = map.above key := by
  rw [find?_eq_none_iff] at absent
  apply List.filter_congr
  intro entry member
  have other : entry.1 ≠ key := fun same => absent (same ▸ List.mem_map_of_mem member)
  simp [lt_iff_le_and_ne, Ne.symm other]

theorem filter_since (entries : List (κ × ν)) (key : κ) (value : ν)
    (ordered : entries.Pairwise (fun first second => first.1 < second.1))
    (member : (key, value) ∈ entries) :
    entries.filter (fun entry => key ≤ entry.1) =
      (key, value) :: entries.filter (fun entry => key < entry.1) := by
  induction entries with
  | nil => simp at member
  | cons head rest ih =>
    obtain ⟨first, tail⟩ := List.pairwise_cons.mp ordered
    rcases List.mem_cons.mp member with same | later
    · subst same
      have rest_above : ∀ entry ∈ rest, key < entry.1 := first
      have keepAbove : rest.filter (fun entry => decide (key < entry.1)) = rest :=
        List.filter_eq_self.mpr (fun entry inside => by simpa using rest_above entry inside)
      have keepSince : rest.filter (fun entry => decide (key ≤ entry.1)) = rest :=
        List.filter_eq_self.mpr (fun entry inside => by simpa using (rest_above entry inside).le)
      simp [keepAbove, keepSince]
    · have below : head.1 < key := first (key, value) later
      simpa [below.not_ge, below.le, below.not_gt] using ih tail later

theorem since_of_find?_some (map : OrderedMap κ ν) {key : κ} {value : ν}
    (found : map.find? key = some value) : map.since key = (key, value) :: map.above key :=
  filter_since map.entries key value map.ordered ((map.find?_eq_some_iff key value).mp found)

/-- The greatest key is the last one listed. -/
theorem entries_of_greatest (map : OrderedMap κ ν) {key : κ} {value : ν}
    (found : map.find? key = some value) (greatest : ∀ entry ∈ map.entries, entry.1 ≤ key) :
    map.entries = map.below key ++ [(key, value)] := by
  have none_above : map.above key = [] :=
    List.filter_eq_nil_iff.mpr (fun entry member => by simpa using greatest entry member)
  have partition := map.partition_at key
  rw [map.since_of_find?_some found, none_above] at partition
  exact partition

/-- From the least key above another one on, the listing is what lies above that one. -/
theorem since_head_above (map : OrderedMap κ ν) {key : κ} {head : κ × ν} {rest : List (κ × ν)}
    (listing : map.above key = head :: rest) : map.since head.1 = map.above key := by
  have ordered : (map.above key).Pairwise (fun first second => first.1 < second.1) :=
    map.ordered.filter _
  have less : key < head.1 := by
    have member : head ∈ map.above key := by simp [listing]
    simpa using (List.mem_filter.mp member).2
  have least : ∀ entry ∈ map.entries, key < entry.1 → head.1 ≤ entry.1 := by
    intro entry member above
    have inside : entry ∈ map.above key := List.mem_filter.mpr ⟨member, by simpa using above⟩
    rw [listing] at inside ordered
    rcases List.mem_cons.mp inside with same | later
    · exact same ▸ le_rfl
    · exact ((List.pairwise_cons.mp ordered).1 entry later).le
  apply List.filter_congr
  intro entry member
  simp only [decide_eq_decide]
  exact ⟨less.trans_le, least entry member⟩

theorem find?_head_above (map : OrderedMap κ ν) {key : κ} {head : κ × ν} {rest : List (κ × ν)}
    (listing : map.above key = head :: rest) : map.find? head.1 = some head.2 := by
  have member : head ∈ map.above key := by simp [listing]
  exact (map.find?_eq_some_iff head.1 head.2).mpr (List.mem_filter.mp member).1

theorem above_head_above (map : OrderedMap κ ν) {key : κ} {head : κ × ν} {rest : List (κ × ν)}
    (listing : map.above key = head :: rest) : map.above head.1 = rest := by
  have since := map.since_of_find?_some (map.find?_head_above listing)
  rw [map.since_head_above listing, listing] at since
  exact (List.cons.inj since).2.symm

/-- Up to the next key, the listing goes through the binding at the key, if there is one. -/
theorem below_head_above (map : OrderedMap κ ν) {key : κ} {head : κ × ν} {rest : List (κ × ν)}
    (listing : map.above key = head :: rest) :
    map.below head.1 = map.below key ++ (map.find? key).toList.map (fun value => (key, value)) := by
  have outer := map.partition_at head.1
  have inner := map.partition_at key
  rw [map.since_head_above listing] at outer
  cases found : map.find? key with
  | none =>
    rw [map.since_of_find?_none found] at inner
    rw [inner] at outer
    simpa using (List.append_cancel_right outer).symm
  | some value =>
    have split : map.entries = (map.below key ++ [(key, value)]) ++ map.above key := by
      rw [map.since_of_find?_some found] at inner
      simpa using inner
    rw [split] at outer
    simpa using (List.append_cancel_right outer).symm

theorem below_erase (map : OrderedMap κ ν) {low key : κ} (bound : low ≤ key) :
    (map.erase key).below low = map.below low := by
  simp only [below, erase_entries, List.filter_filter]
  apply List.filter_congr
  intro entry _
  simpa using fun less : entry.1 < low => (less.trans_le bound).ne

/-- Rebinding a key changes nothing below it. -/
theorem below_insert (map : OrderedMap κ ν) {low key : κ} (bound : low ≤ key) (value : ν) :
    (map.insert key value).below low = map.below low := by
  rw [below, below, insert_entries]
  induction map.entries with
  | nil => simp [place, bound]
  | cons head rest ih =>
    rw [place]
    split_ifs with before behind
    · rw [List.filter_cons_of_neg (by simpa using bound)]
    · rw [List.filter_cons, List.filter_cons, ih]
    · have same : low ≤ head.1 := bound.trans (not_lt.mp behind)
      rw [List.filter_cons_of_neg (by simpa using bound), List.filter_cons_of_neg (by simpa using same)]

theorem above_erase (map : OrderedMap κ ν) (key : κ) : (map.erase key).above key = map.above key := by
  simp only [above, erase_entries, List.filter_filter]
  apply List.filter_congr
  intro entry _
  simpa using fun less : key < entry.1 => less.ne'

theorem foldl_min_of_le (least : κ) (others : List κ) (below : ∀ other ∈ others, least ≤ other) :
    others.foldl min least = least := by
  induction others with
  | nil => rfl
  | cons other rest ih =>
    rw [List.foldl_cons, min_eq_left (below other (by simp)),
      ih (fun later member => below later (List.mem_cons_of_mem _ member))]

/-- The least key above another one heads the bindings above it. -/
theorem min?_keys_above (map : OrderedMap κ ν) (key : κ) :
    (map.keys.filter (key < ·)).min? = (map.above key).head?.map Prod.fst := by
  have swap : map.keys.filter (key < ·) = (map.above key).map Prod.fst := by
    simp only [keys, above, List.filter_map]
    rfl
  have ordered : (map.above key).Pairwise (fun first second => first.1 < second.1) :=
    map.ordered.filter _
  rw [swap]
  cases rest : map.above key with
  | nil => rfl
  | cons head tail =>
    rw [rest] at ordered
    obtain ⟨first, -⟩ := List.pairwise_cons.mp ordered
    rw [List.map_cons, List.min?_cons', foldl_min_of_le]
    · rfl
    · intro other member
      obtain ⟨entry, inside, rfl⟩ := List.mem_map.mp member
      exact (first entry inside).le

/-! ### Sums over the values -/

/-- What the values add up to. -/
def valueSum (map : OrderedMap κ ν) (weight : ν → Nat) : Nat :=
  (map.entries.map fun entry => weight entry.2).sum

theorem sum_place (weight : ν → Nat) (key : κ) (value : ν) (entries : List (κ × ν))
    (ordered : entries.Pairwise (fun first second => first.1 < second.1)) :
    ((place key value entries).map fun entry => weight entry.2).sum +
        (((entries.find? fun entry => entry.1 = key).map Prod.snd).elim 0 weight) =
      (entries.map fun entry => weight entry.2).sum + weight value := by
  induction entries with
  | nil => simp [place]
  | cons entry rest ih =>
    obtain ⟨above, ordered⟩ := List.pairwise_cons.mp ordered
    rw [place]
    split_ifs with less more
    · have absent : (entry :: rest).find? (fun other => other.1 = key) = none := by
        rw [List.find?_eq_none]
        intro other member
        rcases List.mem_cons.mp member with rfl | later
        · simpa using less.ne'
        · simpa using (less.trans (above other later)).ne'
      simp only [absent, Option.map_none, Option.elim_none, List.map_cons, List.sum_cons]
      omega
    · rw [List.find?_cons_of_neg (by simpa using more.ne)]
      have later := ih ordered
      simp only [List.map_cons, List.sum_cons]
      omega
    · have same : entry.1 = key := le_antisymm (not_lt.mp less) (not_lt.mp more)
      rw [List.find?_cons_of_pos (by simpa using same)]
      simp only [Option.map_some, Option.elim_some, List.map_cons, List.sum_cons]
      omega

/-- A binding that is inserted replaces what was bound to its key. -/
theorem valueSum_insert (map : OrderedMap κ ν) (weight : ν → Nat) (key : κ) (value : ν) :
    (map.insert key value).valueSum weight + (map.find? key).elim 0 weight =
      map.valueSum weight + weight value :=
  sum_place weight key value map.entries map.ordered

theorem valueSum_partition (map : OrderedMap κ ν) (weight : ν → Nat) (key : κ) :
    map.valueSum weight = ((map.below key).map fun entry => weight entry.2).sum +
      ((map.since key).map fun entry => weight entry.2).sum := by
  rw [valueSum, map.partition_at key, List.map_append, List.sum_append]

theorem valueSum_erase (map : OrderedMap κ ν) (weight : ν → Nat) {key : κ} {value : ν}
    (found : map.find? key = some value) :
    (map.erase key).valueSum weight + weight value = map.valueSum weight := by
  have again : (map.erase key).insert key value = map := by
    apply ext_find?
    intro other
    rw [find?_insert, find?_erase]
    split_ifs with same
    · rw [same, found]
    · rfl
  have sums := (map.erase key).valueSum_insert weight key value
  rw [again, find?_erase, if_pos rfl] at sums
  simpa using sums.symm

/-! ### One binding and the others -/

theorem filter_above {key : κ} {entries : List (κ × ν)} (above : ∀ entry ∈ entries, key < entry.1) :
    entries.filter (fun entry => entry.1 ≠ key) = entries := by
  rw [List.filter_eq_self]
  intro entry member
  simpa using (above entry member).ne'

theorem place_perm (key : κ) (value : ν) (entries : List (κ × ν))
    (ordered : entries.Pairwise (fun first second => first.1 < second.1)) :
    (place key value entries).Perm ((key, value) :: entries.filter fun entry => entry.1 ≠ key) := by
  induction entries with
  | nil => exact .refl _
  | cons entry rest ih =>
    obtain ⟨above, ordered⟩ := List.pairwise_cons.mp ordered
    rw [place]
    split_ifs with less more
    · rw [filter_above]
      intro other member
      rcases List.mem_cons.mp member with rfl | later
      · exact less
      · exact less.trans (above other later)
    · rw [List.filter_cons_of_pos (by simpa using more.ne)]
      exact ((ih ordered).cons entry).trans (.swap _ _ _)
    · have same : entry.1 = key := le_antisymm (not_lt.mp less) (not_lt.mp more)
      rw [List.filter_cons_of_neg (by simpa using same), filter_above]
      intro other member
      rw [← same]
      exact above other member

theorem insert_perm (map : OrderedMap κ ν) (key : κ) (value : ν) :
    (map.insert key value).entries.Perm ((key, value) :: (map.erase key).entries) :=
  place_perm key value map.entries map.ordered

/-- A binding made twice is made once. -/
theorem insert_insert (map : OrderedMap κ ν) (key : κ) (old new : ν) :
    (map.insert key old).insert key new = map.insert key new := by
  apply ext_find?
  intro other
  simp only [find?_insert]
  split_ifs <;> rfl

theorem insert_of_find? (map : OrderedMap κ ν) {key : κ} {value : ν} (found : map.find? key = some value) :
    map.insert key value = map := by
  apply ext_find?
  intro other
  rw [find?_insert]
  split_ifs with same
  · rw [same, found]
  · rfl

theorem erase_of_find?_none (map : OrderedMap κ ν) {key : κ} (absent : map.find? key = none) :
    map.erase key = map := by
  apply ext_find?
  intro other
  rw [find?_erase]
  split_ifs with same
  · rw [same, absent]
  · rfl

/-- A binding that is there and the others make up the map. -/
theorem perm_of_find? (map : OrderedMap κ ν) {key : κ} {value : ν} (found : map.find? key = some value) :
    map.entries.Perm ((key, value) :: (map.erase key).entries) := by
  have parts := map.insert_perm key value
  rwa [map.insert_of_find? found] at parts

end OrderedMap

end TelemetryFabric.Library
