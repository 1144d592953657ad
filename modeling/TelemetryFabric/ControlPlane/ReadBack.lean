import TelemetryFabric.ControlPlane.PostgresCodec

/-!
What a stored pipeline is written as when it is read back. Its keys are found as before, but a
boolean is a string by then: it is written in quotes, and a name that is one is sorted among the
strings.
-/

namespace TelemetryFabric.ControlPlane
open Library

/-! ### Maps read back -/

/-- No two keys of the map have the same text. -/
def Distinct (entries : Entries) : Prop := (entries.map fun entry => entry.1.text).Nodup

theorem Distinct.keys {entries : Entries} (distinct : Distinct entries) : (entries.map Prod.fst).Nodup := by
  have texts : (entries.map Prod.fst).map MapKey.text = entries.map fun entry => entry.1.text := by
    rw [List.map_map]
    rfl
  unfold Distinct at distinct
  rw [← texts] at distinct
  exact distinct.of_map MapKey.text

theorem Distinct.perm {entries others : Entries} (distinct : Distinct entries) (same : others.Perm entries) :
    Distinct others :=
  (same.map _).nodup_iff.mpr distinct

theorem findKey_eq_some_iff {entries : Entries} (nodup : (entries.map Prod.fst).Nodup) {key : MapKey} {value : Term} :
    findKey entries key = some value ↔ (key, value) ∈ entries := by
  unfold findKey
  rw [Option.map_eq_some_iff]
  constructor
  · rintro ⟨entry, found, rfl⟩
    have same : entry.1 = key := by simpa using List.find?_some found
    rw [← same]
    exact List.mem_of_find?_eq_some found
  · intro member
    obtain ⟨entry, found⟩ : ∃ entry, entries.find? (fun entry => entry.1 = key) = some entry := by
      rw [← Option.isSome_iff_exists, List.find?_isSome]
      exact ⟨_, member, by simp⟩
    have same : entry.1 = key := by simpa using List.find?_some found
    have one := List.inj_on_of_nodup_map nodup (List.mem_of_find?_eq_some found) member same
    exact ⟨entry, found, by rw [one]⟩

theorem mapGet_eq_some_iff {entries : Entries} (distinct : Distinct entries) {key : String} {value : Term} :
    mapGet entries key = some value ↔ ∃ found : MapKey, found.text = key ∧ (found, value) ∈ entries := by
  unfold mapGet
  rw [Option.or_eq_some_iff, findKey_eq_some_iff distinct.keys, findKey_eq_some_iff distinct.keys]
  constructor
  · rintro (atom | ⟨-, string⟩)
    · exact ⟨.atom key, rfl, atom⟩
    · exact ⟨.string key, rfl, string⟩
  · rintro ⟨found, text, member⟩
    cases found with
    | atom name =>
      obtain rfl := text
      exact .inl member
    | string name =>
      obtain rfl := text
      refine .inr ⟨?_, member⟩
      -- an atom of the same text would be a second key with it
      rw [Option.eq_none_iff_forall_ne_some]
      intro other found
      have atom := (findKey_eq_some_iff distinct.keys).mp found
      have one := List.inj_on_of_nodup_map distinct atom member rfl
      cases one

theorem mapPut_of_absent {entries : Entries} {key : MapKey} {value : Term} (absent : key ∉ entries.map Prod.fst) :
    mapPut entries key value = entries ++ [(key, value)] := by
  unfold mapPut
  rw [if_neg]
  intro present
  obtain ⟨entry, member, same⟩ := List.any_eq_true.mp present
  exact absent (List.mem_map.mpr ⟨entry, member, of_decide_eq_true same⟩)

theorem foldl_mapPut {entries start : Entries} (nodup : ((start ++ entries).map Prod.fst).Nodup) :
    entries.foldl (fun map entry => mapPut map entry.1 entry.2) start = start ++ entries := by
  induction entries generalizing start with
  | nil => simp
  | cons entry rest ih =>
    have absent : entry.1 ∉ start.map Prod.fst := by
      rw [List.map_append, List.map_cons, List.nodup_append] at nodup
      intro member
      exact nodup.2.2 _ member _ List.mem_cons_self rfl
    rw [List.foldl_cons, mapPut_of_absent absent, ih, List.append_assoc]
    · rfl
    · simpa using nodup

/-- With different keys, a new map is the list it is made from. -/
theorem mapNew_eq {entries : Entries} (nodup : (entries.map Prod.fst).Nodup) : mapNew entries = entries := by
  have nothing : (([] : Entries) ++ entries).map Prod.fst = entries.map Prod.fst := rfl
  exact foldl_mapPut (nothing ▸ nodup)

section Normalize

variable {enumerate : Entries → Entries}

theorem normalizeItems_eq (items : List Term) :
    normalizeItems enumerate items = items.map (normalizeJson enumerate) := by
  induction items with
  | nil => rfl
  | cons item rest ih => rw [normalizeItems, ih, List.map_cons]

theorem normalizeFields_eq (entries : Entries) :
    normalizeFields enumerate entries =
      entries.map fun entry => (.string entry.1.text, normalizeJson enumerate entry.2) := by
  induction entries with
  | nil => rfl
  | cons entry rest ih => rw [normalizeFields, ih, List.map_cons]

theorem Distinct.normalizeFields {entries : Entries} (distinct : Distinct entries) :
    Distinct (normalizeFields enumerate entries) := by
  rw [normalizeFields_eq]
  unfold Distinct
  rw [List.map_map]
  exact distinct

theorem normalizeEntries_perm (lawful : ∀ entries, (enumerate entries).Perm entries) {entries : Entries}
    (distinct : Distinct entries) :
    (normalizeEntries enumerate entries).Perm (normalizeFields enumerate entries) := by
  have enumeratedOnce : Distinct (enumerate (normalizeFields enumerate entries)) :=
    distinct.normalizeFields.perm (lawful _)
  unfold normalizeEntries
  rw [mapNew_eq enumeratedOnce.keys]
  exact lawful _

/-- A field is read back under its key, normalized. -/
theorem mapGet_normalizeEntries (lawful : ∀ entries, (enumerate entries).Perm entries) {entries : Entries}
    (distinct : Distinct entries) (key : String) :
    mapGet (normalizeEntries enumerate entries) key = (mapGet entries key).map (normalizeJson enumerate) := by
  have parts := normalizeEntries_perm lawful distinct
  apply Option.ext
  intro value
  rw [mapGet_eq_some_iff (distinct.normalizeFields.perm parts), Option.map_eq_some_iff]
  constructor
  · rintro ⟨found, text, member⟩
    rw [parts.mem_iff, normalizeFields_eq, List.mem_map] at member
    obtain ⟨entry, inside, same⟩ := member
    obtain ⟨rfl, rfl⟩ := Prod.mk.inj same
    exact ⟨entry.2, (mapGet_eq_some_iff distinct).mpr ⟨entry.1, text, inside⟩, rfl⟩
  · rintro ⟨original, read, rfl⟩
    obtain ⟨found, text, member⟩ := (mapGet_eq_some_iff distinct).mp read
    refine ⟨.string found.text, text, ?_⟩
    rw [parts.mem_iff, normalizeFields_eq]
    exact List.mem_map.mpr ⟨(found, original), member, rfl⟩

end Normalize

/-! ### Lines read back -/

/-- The characters of some lines. -/
def textOf (lines : List String) : List Char := lines.flatMap fun line => line.toList ++ ['\n']

theorem textOf_append (first second : List String) : textOf (first ++ second) = textOf first ++ textOf second :=
  List.flatMap_append

theorem joinLines_eq {lines : List String} (some : lines ≠ []) : joinLines lines = String.ofList (textOf lines) := by
  unfold joinLines
  congr 1
  induction lines with
  | nil => exact absurd rfl some
  | cons line rest ih =>
    by_cases last : rest = []
    · subst last
      simp [textOf]
    · rw [List.map_cons, List.intercalate_cons_of_ne_nil (by simpa using last), List.append_assoc, ih last]
      simp [textOf]

/-- Lines in which so many scalars have come to stand in quotes. -/
structure Requoted (quoted : Nat) (lines back : List String) : Prop where
  length : (textOf back).length = (textOf lines).length + 2 * quoted
  same : quoted = 0 → back = lines

theorem Requoted.refl (lines : List String) : Requoted 0 lines lines := ⟨rfl, fun _ => rfl⟩

theorem Requoted.append {one two : Nat} {first firstBack second secondBack : List String}
    (left : Requoted one first firstBack) (right : Requoted two second secondBack) :
    Requoted (one + two) (first ++ second) (firstBack ++ secondBack) := by
  constructor
  · rw [textOf_append, textOf_append, List.length_append, List.length_append, left.length, right.length]
    omega
  · intro none
    rw [left.same (by omega), right.same (by omega)]

theorem Requoted.flatMap {α : Type} (items : List α) (lines back : α → List String) (quoted : α → Nat)
    (each : ∀ item ∈ items, Requoted (quoted item) (lines item) (back item)) :
    Requoted (items.map quoted).sum (items.flatMap lines) (items.flatMap back) := by
  induction items with
  | nil => exact Requoted.refl []
  | cons item rest ih =>
    have later := ih fun other member => each other (List.mem_cons_of_mem _ member)
    exact (each item List.mem_cons_self).append later

theorem isSome_of_mapM {α β : Type} {write : α → Option β} {items : List α} {written : List β}
    (all : items.mapM write = some written) : ∀ item ∈ items, (write item).isSome = true := by
  induction items generalizing written with
  | nil => simp
  | cons item rest ih =>
    rw [List.mapM_cons] at all
    obtain ⟨first, found, later⟩ := Option.bind_eq_some_iff.mp all
    obtain ⟨others, foundRest, -⟩ := Option.bind_eq_some_iff.mp later
    rw [List.forall_mem_cons]
    exact ⟨by simp [found], ih foundRest⟩

theorem mapM_eq_some {α β : Type} (default : β) {write : α → Option β} {items : List α}
    (each : ∀ item ∈ items, (write item).isSome = true) :
    items.mapM write = some (items.map fun item => (write item).getD default) := by
  induction items with
  | nil => rfl
  | cons item rest ih =>
    obtain ⟨first, others⟩ := List.forall_mem_cons.mp each
    obtain ⟨value, found⟩ := Option.isSome_iff_exists.mp first
    rw [List.mapM_cons, ih others, found]
    simp [found]

/-! ### Sorting -/

theorem byText_trans (first second third : MapKey × Term) (one : byText first second = true)
    (two : byText second third = true) : byText first third = true := by
  unfold byText at *
  exact decide_eq_true ((of_decide_eq_true one).trans (of_decide_eq_true two))

theorem byText_total (first second : MapKey × Term) : (byText first second || byText second first) = true := by
  unfold byText
  simpa using le_total first.1.text second.1.text

/-- With different texts, the order before the sort does not matter. -/
theorem mergeSort_byText {entries others : Entries} (distinct : Distinct entries) (same : others.Perm entries) :
    others.mergeSort byText = entries.mergeSort byText := by
  have sorted : (others.mergeSort byText).Perm (entries.mergeSort byText) :=
    (List.mergeSort_perm others byText).trans (same.trans (List.mergeSort_perm entries byText).symm)
  refine List.Perm.eq_of_pairwise ?_ (List.pairwise_mergeSort byText_trans byText_total others)
    (List.pairwise_mergeSort byText_trans byText_total entries) sorted
  intro first second left right one two
  have member : first ∈ entries := same.mem_iff.mp (List.mem_mergeSort.mp left)
  have also : second ∈ entries := List.mem_mergeSort.mp right
  exact List.inj_on_of_nodup_map distinct member also
    (le_antisymm (of_decide_eq_true one) (of_decide_eq_true two))

/-! ### Fields read back -/

def quotedScalars (terms : List Term) : Nat := terms.countP Term.isBoolean

/-- The scalars that a field is written with. -/
def fieldScalars : Term → List Term
  | .map entries => entries.map Prod.snd
  | value => [value]

/-- The scalars that an entry is written with. -/
def entryScalars (keys : List String) (entry : Entries) : List Term :=
  (keys.filter (mapHasKey entry)).flatMap fun key => ((mapGet entry key).map fieldScalars).getD []

def routeScalars (route : Entries) : List Term := ((mapGet route "exporters").bind enumerated).getD []

section Fields

variable {enumerate : Entries → Entries}

theorem interpolate_normalizeJson (value : Option Term) :
    interpolate (value.map (normalizeJson enumerate)) = interpolate value := by
  cases value with
  | none => rfl
  | some term =>
    cases term with
    | scalar value => cases value <;> rfl
    | list items => rfl
    | map entries => rfl

variable (enumerate) in
/-- A scalar is written as before, a boolean in quotes. -/
theorem yamlScalar_normalizeJson {value : Term} {text : String} (written : yamlScalar value = some text) :
    yamlScalar (normalizeJson enumerate value) = some (if value.isBoolean then "\"" ++ text ++ "\"" else text) := by
  cases value with
  | scalar value =>
    cases value with
    | string content => exact written
    | integer number => exact written
    | boolean bit =>
      have plain : ∀ bit, escape (showBool bit) = showBool bit := by decide
      obtain rfl := Option.some.inj written
      simp only [normalizeJson, yamlScalar, plain]
      rfl
  | list items => cases written
  | map entries => cases written

theorem requoted_line (start text : String) (quoted : Bool) :
    Requoted (if quoted then 1 else 0) [start ++ text] [start ++ if quoted then "\"" ++ text ++ "\"" else text] := by
  cases quoted with
  | false => exact Requoted.refl _
  | true =>
    refine ⟨?_, fun none => absurd none (by decide)⟩
    simp [textOf]
    omega

theorem quotedScalars_singleton (value : Term) : quotedScalars [value] = if value.isBoolean then 1 else 0 := by
  unfold quotedScalars
  rw [List.countP_singleton]

/-- The entries of a map that is read back, in the order they are written. -/
theorem sorted_normalizeEntries (lawful : ∀ entries, (enumerate entries).Perm entries) {entries : Entries}
    (distinct : Distinct entries) :
    (enumerate (normalizeEntries enumerate entries)).mergeSort byText =
      ((enumerate entries).mergeSort byText).map fun entry =>
        (.string entry.1.text, normalizeJson enumerate entry.2) := by
  have mapped : ((enumerate entries).mergeSort byText).map (fun entry =>
      (MapKey.string entry.1.text, normalizeJson enumerate entry.2)) =
      ((enumerate entries).map fun entry =>
        (MapKey.string entry.1.text, normalizeJson enumerate entry.2)).mergeSort byText :=
    List.map_mergeSort fun _ _ _ _ => rfl
  rw [mapped]
  have stored : (enumerate (normalizeEntries enumerate entries)).Perm (normalizeFields enumerate entries) :=
    (lawful _).trans (normalizeEntries_perm lawful distinct)
  have original : ((enumerate entries).map fun entry => (MapKey.string entry.1.text, normalizeJson enumerate entry.2)).Perm
      (normalizeFields enumerate entries) := by
    rw [normalizeFields_eq]
    exact (lawful entries).map _
  rw [mergeSort_byText distinct.normalizeFields stored, mergeSort_byText distinct.normalizeFields original]

/-- The maps below a field have different texts as keys. -/
def FieldDistinct : Term → Prop
  | .map entries => Distinct entries
  | _ => True

theorem yamlField_scalar (key : String) (value : Scalar) :
    yamlField enumerate key (.scalar value) =
      (yamlScalar (.scalar value)).map fun text => ["    " ++ key ++ ": " ++ text] := by
  simp only [yamlField]
  cases yamlScalar (.scalar value) <;> rfl

theorem yamlField_map (key : String) (entries : Entries) :
    yamlField enumerate key (.map entries) =
      (((enumerate entries).mergeSort byText).mapM fun entry =>
        (yamlScalar entry.2).map fun text => "      " ++ entry.1.text ++ ": " ++ text).map fun lines =>
          ("    " ++ key ++ ":") :: lines := by
  simp only [yamlField, Option.map_eq_bind]
  rfl

variable (enumerate) in
/-- The lines of a map, entry by entry. -/
theorem nested_normalizeJson (entries : Entries) {lines : List String}
    (written : (entries.mapM fun entry =>
      (yamlScalar entry.2).map fun text => "      " ++ entry.1.text ++ ": " ++ text) = some lines) :
    ∃ back, ((entries.map fun entry => (MapKey.string entry.1.text, normalizeJson enumerate entry.2)).mapM fun entry =>
        (yamlScalar entry.2).map fun text => "      " ++ entry.1.text ++ ": " ++ text) = some back ∧
      Requoted (quotedScalars (entries.map Prod.snd)) lines back := by
  induction entries generalizing lines with
  | nil =>
    obtain rfl := Option.some.inj written
    exact ⟨[], rfl, Requoted.refl []⟩
  | cons entry rest ih =>
    rw [List.mapM_cons] at written
    obtain ⟨line, foundLine, later⟩ := Option.bind_eq_some_iff.mp written
    obtain ⟨others, foundOthers, made⟩ := Option.bind_eq_some_iff.mp later
    obtain rfl := Option.some.inj made
    obtain ⟨text, scalar, rfl⟩ := Option.map_eq_some_iff.mp foundLine
    obtain ⟨back, foundBack, requoted⟩ := ih foundOthers
    have first := yamlScalar_normalizeJson enumerate scalar
    refine ⟨("      " ++ entry.1.text ++ ": " ++ if entry.2.isBoolean then "\"" ++ text ++ "\"" else text) :: back,
      ?_, ?_⟩
    · rw [List.map_cons, List.mapM_cons, foundBack, first]
      rfl
    · have parts := (requoted_line ("      " ++ entry.1.text ++ ": ") text entry.2.isBoolean).append requoted
      rw [← quotedScalars_singleton] at parts
      have sum : quotedScalars ((entry :: rest).map Prod.snd) =
          quotedScalars [entry.2] + quotedScalars (rest.map Prod.snd) := by
        unfold quotedScalars
        rw [List.map_cons, ← List.singleton_append, List.countP_append]
      rw [sum]
      exact parts

theorem yamlField_normalizeJson (lawful : ∀ entries, (enumerate entries).Perm entries) {key : String} {value : Term}
    {lines : List String} (distinct : FieldDistinct value) (written : yamlField enumerate key value = some lines) :
    ∃ back, yamlField enumerate key (normalizeJson enumerate value) = some back ∧
      Requoted (quotedScalars (fieldScalars value)) lines back := by
  cases value with
  | scalar value =>
    rw [yamlField_scalar, Option.map_eq_some_iff] at written
    obtain ⟨text, found, rfl⟩ := written
    have back := yamlScalar_normalizeJson enumerate found
    have field : yamlField enumerate key (normalizeJson enumerate (.scalar value)) =
        (yamlScalar (normalizeJson enumerate (.scalar value))).map fun text => ["    " ++ key ++ ": " ++ text] := by
      cases value <;> exact yamlField_scalar key _
    refine ⟨_, by rw [field, back, Option.map_some], ?_⟩
    change Requoted (quotedScalars [_]) _ _
    rw [quotedScalars_singleton]
    exact requoted_line _ _ _
  | list items =>
    have none : yamlField enumerate key (.list items) = none := rfl
    rw [none] at written
    cases written
  | map entries =>
    rw [yamlField_map, Option.map_eq_some_iff] at written
    obtain ⟨body, found, rfl⟩ := written
    obtain ⟨back, foundBack, requoted⟩ := nested_normalizeJson enumerate _ found
    refine ⟨("    " ++ key ++ ":") :: back, ?_, ?_⟩
    · change yamlField enumerate key (.map (normalizeEntries enumerate entries)) = _
      rw [yamlField_map, sorted_normalizeEntries lawful distinct, foundBack]
      rfl
    · have same : quotedScalars (fieldScalars (.map entries)) =
          quotedScalars (((enumerate entries).mergeSort byText).map Prod.snd) := by
        unfold quotedScalars
        exact ((((List.mergeSort_perm _ byText).trans (lawful entries)).map Prod.snd).countP_eq _).symm
      rw [same]
      have titled := (Requoted.refl ["    " ++ key ++ ":"]).append requoted
      rwa [Nat.zero_add] at titled

theorem quotedScalars_append (first second : List Term) :
    quotedScalars (first ++ second) = quotedScalars first + quotedScalars second :=
  List.countP_append

/-- The map has different texts as keys, and so have the maps in it. -/
structure EntryDistinct (entry : Entries) : Prop where
  keys : Distinct entry
  fields : ∀ field ∈ entry, FieldDistinct field.2

theorem EntryDistinct.field {entry : Entries} (distinct : EntryDistinct entry) {key : String} {value : Term}
    (found : mapGet entry key = some value) : FieldDistinct value := by
  obtain ⟨name, -, member⟩ := (mapGet_eq_some_iff distinct.keys).mp found
  exact distinct.fields _ member

theorem fields_normalizeEntries (lawful : ∀ entries, (enumerate entries).Perm entries) {entry : Entries}
    (distinct : EntryDistinct entry) (keys : List String) {fields : List (List String)}
    (written : (keys.mapM fun key => (mapGet entry key).bind (yamlField enumerate key)) = some fields) :
    ∃ back, (keys.mapM fun key => (mapGet (normalizeEntries enumerate entry) key).bind (yamlField enumerate key)) =
        some back ∧
      Requoted (quotedScalars (keys.flatMap fun key => ((mapGet entry key).map fieldScalars).getD []))
        fields.flatten back.flatten := by
  induction keys generalizing fields with
  | nil =>
    obtain rfl := Option.some.inj written
    exact ⟨[], rfl, Requoted.refl []⟩
  | cons key rest ih =>
    rw [List.mapM_cons] at written
    obtain ⟨field, foundField, later⟩ := Option.bind_eq_some_iff.mp written
    obtain ⟨others, foundOthers, made⟩ := Option.bind_eq_some_iff.mp later
    obtain rfl := Option.some.inj made
    obtain ⟨value, read, lines⟩ := Option.bind_eq_some_iff.mp foundField
    obtain ⟨first, foundFirst, requotedFirst⟩ := yamlField_normalizeJson lawful (distinct.field read) lines
    obtain ⟨back, foundBack, requoted⟩ := ih foundOthers
    refine ⟨first :: back, ?_, ?_⟩
    · rw [List.mapM_cons, foundBack, mapGet_normalizeEntries lawful distinct.keys, read, Option.map_some,
        Option.bind_some, foundFirst]
      rfl
    · rw [List.flatMap_cons, quotedScalars_append, read]
      exact requotedFirst.append requoted

theorem mapHasKey_normalizeEntries (lawful : ∀ entries, (enumerate entries).Perm entries) {entry : Entries}
    (distinct : Distinct entry) : mapHasKey (normalizeEntries enumerate entry) = mapHasKey entry := by
  funext key
  unfold mapHasKey
  rw [mapGet_normalizeEntries lawful distinct, Option.isSome_map]

theorem entryLines_normalizeEntries (lawful : ∀ entries, (enumerate entries).Perm entries) {entry : Entries}
    (distinct : EntryDistinct entry) (keys : List String) {lines : List String}
    (written : entryLines enumerate keys entry = some lines) :
    ∃ back, entryLines enumerate keys (normalizeEntries enumerate entry) = some back ∧
      Requoted (quotedScalars (entryScalars keys entry)) lines back := by
  obtain ⟨name, foundName, later⟩ := Option.bind_eq_some_iff.mp written
  obtain ⟨fields, foundFields, made⟩ := Option.bind_eq_some_iff.mp later
  obtain rfl := Option.some.inj made
  obtain ⟨back, foundBack, requoted⟩ := fields_normalizeEntries lawful distinct _ foundFields
  refine ⟨("  " ++ name ++ ":") :: back.flatten, ?_, ?_⟩
  · unfold entryLines
    rw [mapGet_normalizeEntries lawful distinct.keys, interpolate_normalizeJson, foundName,
      mapHasKey_normalizeEntries lawful distinct.keys, Option.bind_eq_bind, Option.bind_some, foundBack]
    rfl
  · have titled := (Requoted.refl ["  " ++ name ++ ":"]).append requoted
    rwa [Nat.zero_add] at titled

theorem enumerated_normalizeJson (lawful : ∀ entries, (enumerate entries).Perm entries) {value : Term}
    {items : List Term} (listed : enumerated value = some items) :
    enumerated (normalizeJson enumerate value) = some (items.map (normalizeJson enumerate)) := by
  cases value with
  | scalar value => cases listed
  | list content =>
    obtain rfl := Option.some.inj listed
    rw [← normalizeItems_eq]
    simp only [normalizeJson, enumerated]
  | map entries =>
    cases entries with
    | nil =>
      obtain rfl := Option.some.inj listed
      have empty : enumerate (normalizeFields enumerate []) = [] := List.perm_nil.mp (lawful [])
      simp only [normalizeJson, empty]
      rfl
    | cons entry rest => cases listed

theorem length_intercalate (separator : List Char) (items : List (List Char)) :
    (separator.intercalate items).length = (items.map List.length).sum + separator.length * (items.length - 1) := by
  induction items with
  | nil => rfl
  | cons item rest ih =>
    by_cases last : rest = []
    · subst last
      simp
    · have positive : 0 < rest.length := List.length_pos_iff.mpr last
      have turn : separator.length * (rest.length - 1) + separator.length = separator.length * rest.length := by
        rw [← Nat.mul_succ, Nat.succ_eq_add_one, Nat.sub_add_cancel positive]
      rw [List.intercalate_cons_of_ne_nil last, List.length_append, List.length_append, ih, List.map_cons,
        List.sum_cons, List.length_cons, Nat.add_sub_cancel]
      omega

variable (enumerate) in
/-- The exporters of a route, one by one. -/
theorem texts_normalizeJson (items : List Term) {texts : List String} (written : items.mapM yamlScalar = some texts) :
    ∃ back, (items.map (normalizeJson enumerate)).mapM yamlScalar = some back ∧ back.length = texts.length ∧
      (back.map String.length).sum = (texts.map String.length).sum + 2 * quotedScalars items ∧
      (quotedScalars items = 0 → back = texts) := by
  induction items generalizing texts with
  | nil =>
    obtain rfl := Option.some.inj written
    exact ⟨[], rfl, rfl, rfl, fun _ => rfl⟩
  | cons item rest ih =>
    rw [List.mapM_cons] at written
    obtain ⟨text, foundText, later⟩ := Option.bind_eq_some_iff.mp written
    obtain ⟨others, foundOthers, made⟩ := Option.bind_eq_some_iff.mp later
    obtain rfl := Option.some.inj made
    obtain ⟨back, foundBack, lengths, total, same⟩ := ih foundOthers
    have first := yamlScalar_normalizeJson enumerate foundText
    refine ⟨(if item.isBoolean then "\"" ++ text ++ "\"" else text) :: back, ?_, ?_, ?_, ?_⟩
    · rw [List.map_cons, List.mapM_cons, foundBack, first]
      rfl
    · rw [List.length_cons, List.length_cons, lengths]
    · have counted : quotedScalars (item :: rest) = quotedScalars [item] + quotedScalars rest :=
        quotedScalars_append [item] rest
      rw [counted, quotedScalars_singleton, List.map_cons, List.map_cons, List.sum_cons, List.sum_cons, total]
      cases item.isBoolean with
      | false => simp only [Bool.false_eq_true, if_false]; omega
      | true =>
        have quotes : ("\"" ++ text ++ "\"").length = text.length + 2 := by
          rw [String.length_append, String.length_append]
          change 1 + text.length + 1 = text.length + 2
          omega
        simp only [if_true, quotes]
        omega
    · intro none
      have counted : quotedScalars (item :: rest) = quotedScalars [item] + quotedScalars rest :=
        quotedScalars_append [item] rest
      rw [counted, quotedScalars_singleton] at none
      rw [same (by omega)]
      cases boolean : item.isBoolean with
      | false => rfl
      | true =>
        rw [boolean, if_pos rfl] at none
        omega

theorem routeLines_normalizeEntries (lawful : ∀ entries, (enumerate entries).Perm entries) {route : Entries}
    (distinct : EntryDistinct route) {lines : List String} (written : routeLines route = some lines) :
    ∃ back, routeLines (normalizeEntries enumerate route) = some back ∧
      Requoted (quotedScalars (routeScalars route)) lines back := by
  obtain ⟨exporters, foundExporters, later⟩ := Option.bind_eq_some_iff.mp written
  obtain ⟨texts, foundTexts, last⟩ := Option.bind_eq_some_iff.mp later
  obtain ⟨signal, foundSignal, made⟩ := Option.bind_eq_some_iff.mp last
  obtain rfl := Option.some.inj made
  obtain ⟨value, read, listed⟩ := Option.bind_eq_some_iff.mp foundExporters
  obtain ⟨back, foundBack, lengths, total, same⟩ := texts_normalizeJson enumerate exporters foundTexts
  have scalars : routeScalars route = exporters := by
    unfold routeScalars
    rw [foundExporters]
    rfl
  rw [scalars]
  refine ⟨["  " ++ signal ++ ":",
    "    exporters: [" ++ String.ofList ([',', ' '].intercalate (back.map String.toList)) ++ "]"], ?_, ?_, ?_⟩
  · unfold routeLines
    rw [mapGet_normalizeEntries lawful distinct.keys, mapGet_normalizeEntries lawful distinct.keys,
      interpolate_normalizeJson, foundSignal, read, Option.map_some, Option.bind_some,
      enumerated_normalizeJson lawful listed, Option.bind_eq_bind, Option.bind_some, foundBack]
    rfl
  · have joined : ∀ texts : List String, ([',', ' '].intercalate (texts.map String.toList)).length =
        (texts.map String.length).sum + 2 * (texts.length - 1) := by
      intro texts
      rw [length_intercalate, List.map_map, List.length_map]
      rfl
    simp only [textOf, List.flatMap_cons, List.flatMap_nil, List.length_append, String.toList_append,
      String.toList_ofList, joined, total, lengths, List.length_nil]
    omega
  · intro none
    rw [same none]

end Fields

/-! ### Sections read back -/

/-- A boolean by its text. -/
def textual : Term → Term
  | .scalar (.boolean value) => .scalar (.string (showBool value))
  | value => value

def precedesByText (key : String) (first second : Entries) : Bool :=
  termLe ((mapGet first key).map textual) ((mapGet second key).map textual)

section Sections

variable {enumerate : Entries → Entries}

theorem termLe_normalizeJson (first second : Option Term) :
    termLe (first.map (normalizeJson enumerate)) (second.map (normalizeJson enumerate)) =
      termLe (first.map textual) (second.map textual) := by
  -- up to what is below lists and maps, which the order does not look at, the two agree
  rcases first with _ | (_ | _ | _) | _ | _ <;> rcases second with _ | (_ | _ | _) | _ | _ <;> rfl

theorem sorted_normalizeSection (lawful : ∀ entries, (enumerate entries).Perm entries) (key : String)
    {entries : List Entries} (distinct : ∀ entry ∈ entries, Distinct entry) :
    (entries.map (normalizeEntries enumerate)).mergeSort (precedesBy key) =
      (entries.mergeSort (precedesByText key)).map (normalizeEntries enumerate) := by
  symm
  apply List.map_mergeSort
  intro first member second also
  unfold precedesBy precedesByText
  rw [mapGet_normalizeEntries lawful (distinct first member), mapGet_normalizeEntries lawful (distinct second also),
    termLe_normalizeJson]

theorem length_textOf_flatMap {α : Type} {items others : List α} (same : items.Perm others) (lines : α → List String) :
    (textOf (items.flatMap lines)).length = (textOf (others.flatMap lines)).length :=
  ((same.flatMap_right lines).flatMap_right _).length_eq

theorem sum_quotedScalars (entries : List Entries) (scalars : Entries → List Term) :
    (entries.map fun entry => quotedScalars (scalars entry)).sum = quotedScalars (entries.flatMap scalars) := by
  induction entries with
  | nil => rfl
  | cons entry rest ih => rw [List.map_cons, List.sum_cons, List.flatMap_cons, quotedScalars_append, ih]

theorem sectionLines_eq (title : String) (precedes : Entries → Entries → Bool)
    {lines : Entries → Option (List String)} {entries : List Entries}
    (renders : ∀ entry ∈ entries, (lines entry).isSome = true) :
    sectionLines title precedes lines entries = some ((title ++ ":") ::
      (entries.mergeSort precedes).flatMap (fun entry => (lines entry).getD []) ++ [""]) := by
  have all : (entries.mergeSort precedes).mapM lines =
      some ((entries.mergeSort precedes).map fun entry => (lines entry).getD []) :=
    mapM_eq_some [] fun entry member => renders entry (List.mem_mergeSort.mp member)
  unfold sectionLines
  rw [all]
  rfl

theorem renders_of_sectionLines {title : String} {precedes : Entries → Entries → Bool}
    {lines : Entries → Option (List String)} {entries : List Entries} {result : List String}
    (written : sectionLines title precedes lines entries = some result) :
    ∀ entry ∈ entries, (lines entry).isSome = true := by
  obtain ⟨content, found, -⟩ := Option.bind_eq_some_iff.mp written
  intro entry member
  exact isSome_of_mapM found entry (List.mem_mergeSort.mpr member)

/-- A section that is read back has its booleans in quotes; without any, it is the section with the
entries in the order of the texts. -/
theorem section_normalizeEntries (lawful : ∀ entries, (enumerate entries).Perm entries) (title key : String)
    {lines : Entries → Option (List String)} {scalars : Entries → List Term} {entries : List Entries}
    (distinct : ∀ entry ∈ entries, Distinct entry)
    (each : ∀ entry ∈ entries, ∀ written, lines entry = some written →
      ∃ back, lines (normalizeEntries enumerate entry) = some back ∧
        Requoted (quotedScalars (scalars entry)) written back)
    {result : List String} (written : sectionLines title (precedesBy key) lines entries = some result) :
    ∃ back, sectionLines title (precedesBy key) lines (entries.map (normalizeEntries enumerate)) = some back ∧
      (textOf back).length = (textOf result).length + 2 * quotedScalars (entries.flatMap scalars) ∧
      (quotedScalars (entries.flatMap scalars) = 0 →
        sectionLines title (precedesByText key) lines entries = some back) := by
  have renders := renders_of_sectionLines written
  have one : ∀ entry ∈ entries, ∃ back, lines (normalizeEntries enumerate entry) = some back ∧
      Requoted (quotedScalars (scalars entry)) ((lines entry).getD []) back := by
    intro entry member
    obtain ⟨first, found⟩ := Option.isSome_iff_exists.mp (renders entry member)
    rw [found]
    exact each entry member first found
  have rendersBack : ∀ entry ∈ entries.map (normalizeEntries enumerate), (lines entry).isSome = true := by
    intro entry member
    obtain ⟨source, inside, rfl⟩ := List.mem_map.mp member
    obtain ⟨back, found, -⟩ := one source inside
    simp [found]
  have requoted := Requoted.flatMap (entries.mergeSort (precedesByText key)) (fun entry => (lines entry).getD [])
    (fun entry => (lines (normalizeEntries enumerate entry)).getD []) (fun entry => quotedScalars (scalars entry))
    (by
      intro entry member
      obtain ⟨back, found, kept⟩ := one entry (List.mem_mergeSort.mp member)
      rw [found]
      exact kept)
  have total : ((entries.mergeSort (precedesByText key)).map fun entry => quotedScalars (scalars entry)).sum =
      quotedScalars (entries.flatMap scalars) := by
    rw [sum_quotedScalars]
    exact ((List.mergeSort_perm entries (precedesByText key)).flatMap_right scalars).countP_eq _
  rw [total] at requoted
  rw [sectionLines_eq title (precedesBy key) renders] at written
  obtain rfl := Option.some.inj written
  refine ⟨(title ++ ":") :: (entries.mergeSort (precedesByText key)).flatMap (fun entry =>
    (lines (normalizeEntries enumerate entry)).getD []) ++ [""], ?_, ?_, ?_⟩
  · rw [sectionLines_eq title (precedesBy key) rendersBack, sorted_normalizeSection lawful key distinct,
      List.flatMap_map]
  · have resorted := length_textOf_flatMap ((List.mergeSort_perm entries (precedesByText key)).trans
      (List.mergeSort_perm entries (precedesBy key)).symm) fun entry => (lines entry).getD []
    have framed : ∀ middle, (textOf ((title ++ ":") :: middle ++ [""])).length =
        (textOf [title ++ ":"]).length + (textOf middle).length + (textOf [""]).length := by
      intro middle
      rw [← List.singleton_append, textOf_append, textOf_append, List.length_append, List.length_append]
    rw [framed, framed, requoted.length, resorted]
    omega
  · intro none
    rw [sectionLines_eq title (precedesByText key) renders, requoted.same none]

end Sections

/-! ### Pipelines read back -/

section Pipelines

variable {enumerate : Entries → Entries}

/-- In no map of the pipeline do two keys have the same text. -/
structure PipelineConfig.KeysDistinct (pipeline : PipelineConfig) : Prop where
  receivers : ∀ entry ∈ pipeline.receivers, EntryDistinct entry
  processors : ∀ entry ∈ pipeline.processors, EntryDistinct entry
  exporters : ∀ entry ∈ pipeline.exporters, EntryDistinct entry
  routes : ∀ route ∈ pipeline.routes, EntryDistinct route

/-- The values that the pipeline is written with. -/
def PipelineConfig.scalars (pipeline : PipelineConfig) : List Term :=
  pipeline.receivers.flatMap (entryScalars ["protocol", "endpoint"]) ++
    (pipeline.processors.flatMap (entryScalars ["enabled"]) ++
      (pipeline.exporters.flatMap (entryScalars ["protocol", "endpoint", "tls", "retry"]) ++
        pipeline.routes.flatMap routeScalars))

/-- A section reads the same with its entries in the order of a value and in the order of its text. -/
def SameOrder (title key : String) (lines : Entries → Option (List String)) (entries : List Entries) : Prop :=
  (sectionLines title (precedesBy key) lines entries).map textOf =
    (sectionLines title (precedesByText key) lines entries).map textOf

/-- Booleans as names or signals do not change the order of what is written. -/
structure PipelineConfig.OrderKept (enumerate : Entries → Entries) (pipeline : PipelineConfig) : Prop where
  receivers : SameOrder "receivers" "name" (entryLines enumerate ["protocol", "endpoint"]) pipeline.receivers
  processors : SameOrder "processors" "name" (entryLines enumerate ["enabled"]) pipeline.processors
  exporters : SameOrder "exporters" "name" (entryLines enumerate ["protocol", "endpoint", "tls", "retry"])
    pipeline.exporters
  routes : SameOrder "routes" "signal" routeLines pipeline.routes

/-- The pipeline with all its entries normalized. -/
def PipelineConfig.normalized (enumerate : Entries → Entries) (pipeline : PipelineConfig) : PipelineConfig :=
  { pipeline with
    receivers := pipeline.receivers.map (normalizeEntries enumerate)
    processors := pipeline.processors.map (normalizeEntries enumerate)
    exporters := pipeline.exporters.map (normalizeEntries enumerate)
    routes := pipeline.routes.map (normalizeEntries enumerate) }

theorem columnEntries_eq {config : List (String × Term)} {key : String} {entries : List Entries}
    (stored : (config.find? fun entry => entry.1 = key).map Prod.snd =
      some (normalizeJson enumerate (.list (entries.map .map)))) :
    columnEntries config key = entries.map (normalizeEntries enumerate) := by
  unfold columnEntries
  rw [stored]
  simp only [normalizeJson, normalizeItems_eq, List.map_map]
  rfl

/-- A row is read back as the normalized pipeline. -/
theorem pipelineFromRow_eq {sha256 : String → String} {pipeline : PipelineConfig} {updatedBy : String}
    {row : PipelineVersionRow} (written : pipelineVersionRow enumerate sha256 pipeline updatedBy = some row) :
    pipelineFromRow row = pipeline.normalized enumerate := by
  obtain ⟨payload, -, made⟩ := Option.bind_eq_some_iff.mp written
  obtain rfl := Option.some.inj made
  unfold pipelineFromRow PipelineConfig.normalized
  congr 1
  · exact columnEntries_eq rfl
  · exact columnEntries_eq rfl
  · exact columnEntries_eq rfl
  · exact columnEntries_eq rfl

theorem validate_eq_ok_iff (pipeline : PipelineConfig) :
    validate pipeline = .ok () ↔ isBlank pipeline.tenantId = false ∧ isBlank pipeline.name = false ∧
      pipeline.receivers ≠ [] ∧ pipeline.exporters ≠ [] ∧ pipeline.routes ≠ [] ∧
      validateRouteExporters pipeline.routes pipeline.exporters = .ok () := by
  unfold validate requireText requireNonEmpty
  split_ifs <;> simp_all [bind, Except.bind]

theorem validateRouteExporters_eq_ok_iff (routes exporters : List Entries) :
    validateRouteExporters routes exporters = .ok () ↔ ∃ listed,
      (routes.mapM fun route => ((mapGet route "exporters").map enumerated).getD (some [])) = some listed ∧
      ∀ exporter ∈ listed.flatten, namesExporter exporters exporter = true := by
  unfold validateRouteExporters
  cases (routes.mapM fun route => ((mapGet route "exporters").map enumerated).getD (some [])) with
  | none => simp
  | some listed =>
    simp only [Option.some.injEq, exists_eq_left']
    split
    next exporter found =>
      have unnamed := List.find?_some found
      have member := List.mem_of_find?_eq_some found
      simp only [reduceCtorEq, false_iff, not_forall]
      exact ⟨exporter, member, by simpa using unnamed⟩
    next none =>
      simp only [true_iff]
      intro exporter member
      simpa using List.find?_eq_none.mp none exporter member

theorem namesExporter_normalizeJson (lawful : ∀ entries, (enumerate entries).Perm entries) {exporters : List Entries}
    (distinct : ∀ exporter ∈ exporters, EntryDistinct exporter) {exporter : Term}
    (named : namesExporter exporters exporter = true) :
    namesExporter (exporters.map (normalizeEntries enumerate)) (normalizeJson enumerate exporter) = true := by
  cases exporter with
  | list items => cases named
  | map entries => cases named
  | scalar value =>
    obtain ⟨entry, member, same⟩ := List.any_eq_true.mp named
    have found : mapGet entry "name" = some (.scalar value) := by
      split at same
      next name read => rw [read, of_decide_eq_true same]
      next => cases same
    have back := mapGet_normalizeEntries lawful (distinct entry member).keys "name"
    rw [found, Option.map_some] at back
    have among : normalizeEntries enumerate entry ∈ exporters.map (normalizeEntries enumerate) :=
      List.mem_map_of_mem member
    cases value with
    | string text => exact List.any_eq_true.mpr ⟨_, among, by rw [back]; exact decide_eq_true rfl⟩
    | integer number => exact List.any_eq_true.mpr ⟨_, among, by rw [back]; exact decide_eq_true rfl⟩
    | boolean bit => exact List.any_eq_true.mpr ⟨_, among, by rw [back]; exact decide_eq_true rfl⟩

/-- The exporters that the routes list, normalized. -/
theorem listed_normalized (lawful : ∀ entries, (enumerate entries).Perm entries) {routes : List Entries}
    (distinct : ∀ route ∈ routes, EntryDistinct route) {listed : List (List Term)}
    (read : (routes.mapM fun route => ((mapGet route "exporters").map enumerated).getD (some [])) = some listed) :
    ((routes.map (normalizeEntries enumerate)).mapM fun route =>
      ((mapGet route "exporters").map enumerated).getD (some [])) =
        some (listed.map (List.map (normalizeJson enumerate))) := by
  induction routes generalizing listed with
  | nil =>
    obtain rfl := Option.some.inj read
    rfl
  | cons route rest ih =>
    rw [List.mapM_cons] at read
    obtain ⟨first, foundFirst, later⟩ := Option.bind_eq_some_iff.mp read
    obtain ⟨others, foundOthers, made⟩ := Option.bind_eq_some_iff.mp later
    obtain rfl := Option.some.inj made
    have back : ((mapGet (normalizeEntries enumerate route) "exporters").map enumerated).getD (some []) =
        some (first.map (normalizeJson enumerate)) := by
      rw [mapGet_normalizeEntries lawful (distinct route List.mem_cons_self).keys]
      cases found : mapGet route "exporters" with
      | none =>
        rw [found] at foundFirst
        obtain rfl := Option.some.inj foundFirst
        rfl
      | some value =>
        rw [found] at foundFirst
        exact enumerated_normalizeJson lawful foundFirst
    rw [List.map_cons, List.mapM_cons, back,
      ih (fun other member => distinct other (List.mem_cons_of_mem _ member)) foundOthers]
    rfl

theorem validate_normalized (lawful : ∀ entries, (enumerate entries).Perm entries) {pipeline : PipelineConfig}
    (distinct : pipeline.KeysDistinct) (valid : validate pipeline = .ok ()) :
    validate (pipeline.normalized enumerate) = .ok () := by
  rw [validate_eq_ok_iff] at valid ⊢
  obtain ⟨tenant, name, receivers, exporters, routes, known⟩ := valid
  refine ⟨tenant, name, ?_, ?_, ?_, ?_⟩
  · simpa [PipelineConfig.normalized] using receivers
  · simpa [PipelineConfig.normalized] using exporters
  · simpa [PipelineConfig.normalized] using routes
  · rw [validateRouteExporters_eq_ok_iff] at known ⊢
    obtain ⟨listed, read, named⟩ := known
    refine ⟨_, listed_normalized lawful distinct.routes read, ?_⟩
    intro exporter member
    rw [← List.map_flatten] at member
    obtain ⟨original, inside, rfl⟩ := List.mem_map.mp member
    exact namesExporter_normalizeJson lawful distinct.exporters (named original inside)

theorem namedSection_normalized (lawful : ∀ entries, (enumerate entries).Perm entries) (title : String)
    (keys : List String) {entries : List Entries} (distinct : ∀ entry ∈ entries, EntryDistinct entry)
    {result : List String} (written : namedSection enumerate title entries keys = some result) :
    ∃ back, namedSection enumerate title (entries.map (normalizeEntries enumerate)) keys = some back ∧
      (textOf back).length = (textOf result).length + 2 * quotedScalars (entries.flatMap (entryScalars keys)) ∧
      (quotedScalars (entries.flatMap (entryScalars keys)) = 0 →
        (SameOrder title "name" (entryLines enumerate keys) entries ↔ textOf back = textOf result)) := by
  obtain ⟨back, found, length, resorted⟩ := section_normalizeEntries lawful title "name"
    (fun entry member => (distinct entry member).keys)
    (fun entry member _ lines => entryLines_normalizeEntries lawful (distinct entry member) keys lines) written
  refine ⟨back, found, length, ?_⟩
  intro none
  unfold SameOrder
  rw [resorted none, show sectionLines title _ _ entries = some result from written, Option.map_some, Option.map_some,
    Option.some.injEq, eq_comm]

theorem routeSection_normalized (lawful : ∀ entries, (enumerate entries).Perm entries) {routes : List Entries}
    (distinct : ∀ route ∈ routes, EntryDistinct route) {result : List String}
    (written : routeSection routes = some result) :
    ∃ back, routeSection (routes.map (normalizeEntries enumerate)) = some back ∧
      (textOf back).length = (textOf result).length + 2 * quotedScalars (routes.flatMap routeScalars) ∧
      (quotedScalars (routes.flatMap routeScalars) = 0 →
        (SameOrder "routes" "signal" routeLines routes ↔ textOf back = textOf result)) := by
  obtain ⟨back, found, length, resorted⟩ := section_normalizeEntries lawful "routes" "signal"
    (fun route member => (distinct route member).keys)
    (fun route member _ lines => routeLines_normalizeEntries lawful (distinct route member) lines) written
  refine ⟨back, found, length, ?_⟩
  intro none
  unfold SameOrder
  rw [resorted none, show sectionLines "routes" _ _ routes = some result from written, Option.map_some, Option.map_some,
    Option.some.injEq, eq_comm]

/-- The payload, the column and the checksum of the update are what they were. -/
structure ServedUnchanged (enumerate : Entries → Entries) (sha256 : String → String) (pipeline : PipelineConfig)
    (row : PipelineVersionRow) : Prop where
  payload : toAgentYaml enumerate (pipelineFromRow row) = toAgentYaml enumerate pipeline
  agentYaml : toAgentYaml enumerate pipeline = some row.agentYaml
  checksum : (buildConfigUpdate enumerate sha256 (pipelineFromRow row)).map ConfigUpdate.checksum = some row.checksum

theorem servedUnchanged_iff {sha256 : String → String} {pipeline : PipelineConfig} {updatedBy : String}
    {row : PipelineVersionRow} (written : pipelineVersionRow enumerate sha256 pipeline updatedBy = some row) :
    ServedUnchanged enumerate sha256 pipeline row ↔
      toAgentYaml enumerate (pipeline.normalized enumerate) = toAgentYaml enumerate pipeline := by
  have read := pipelineFromRow_eq written
  obtain ⟨payload, found, made⟩ := Option.bind_eq_some_iff.mp written
  obtain rfl := Option.some.inj made
  constructor
  · intro served
    rw [← read]
    exact served.payload
  · intro same
    rw [← read] at same
    refine ⟨same, found, ?_⟩
    unfold buildConfigUpdate
    rw [same, found]
    rfl

/-- Equal texts have equal parts, where every part has only grown. -/
theorem append_four_iff {α : Type} {one one' two two' three three' four four' : List α} {a b c d : Nat}
    (first : one'.length = one.length + 2 * a) (second : two'.length = two.length + 2 * b)
    (third : three'.length = three.length + 2 * c) (last : four'.length = four.length + 2 * d) :
    one' ++ (two' ++ (three' ++ four')) = one ++ (two ++ (three ++ four)) ↔
      (a + (b + (c + d)) = 0 ∧ one' = one ∧ two' = two ∧ three' = three ∧ four' = four) := by
  constructor
  · intro same
    have total := congrArg List.length same
    simp only [List.length_append] at total
    obtain ⟨sameOne, rest⟩ := List.append_inj same (by omega)
    obtain ⟨sameTwo, rest⟩ := List.append_inj rest (by omega)
    obtain ⟨sameThree, sameFour⟩ := List.append_inj rest (by omega)
    exact ⟨by omega, sameOne, sameTwo, sameThree, sameFour⟩
  · rintro ⟨-, rfl, rfl, rfl, rfl⟩
    rfl

/-- The lines before the sections. -/
def headLines (pipeline : PipelineConfig) : List String :=
  ["tenant: \"" ++ escape pipeline.tenantId ++ "\"", "pipeline: \"" ++ escape pipeline.name ++ "\"", ""]

theorem toAgentYaml_eq_some_iff {pipeline : PipelineConfig} {payload : String} :
    toAgentYaml enumerate pipeline = some payload ↔ validate pipeline = .ok () ∧
      ∃ receivers processors exporters routes,
        namedSection enumerate "receivers" pipeline.receivers ["protocol", "endpoint"] = some receivers ∧
        namedSection enumerate "processors" pipeline.processors ["enabled"] = some processors ∧
        namedSection enumerate "exporters" pipeline.exporters ["protocol", "endpoint", "tls", "retry"] =
          some exporters ∧
        routeSection pipeline.routes = some routes ∧
        payload = String.ofList (textOf (headLines pipeline) ++
          (textOf receivers ++ (textOf processors ++ (textOf exporters ++ textOf routes)))) := by
  have joined : ∀ receivers processors exporters routes : List String,
      joinLines (headLines pipeline ++ receivers ++ processors ++ exporters ++ routes) =
        String.ofList (textOf (headLines pipeline) ++
          (textOf receivers ++ (textOf processors ++ (textOf exporters ++ textOf routes)))) := by
    intro receivers processors exporters routes
    rw [joinLines_eq (by simp [headLines])]
    simp only [textOf_append, List.append_assoc]
  unfold toAgentYaml
  cases validate pipeline with
  | error problem => simp
  | ok _ =>
    simp only [true_and, Option.bind_eq_bind, Option.bind_eq_some_iff]
    constructor
    · rintro ⟨receivers, one, processors, two, exporters, three, routes, four, made⟩
      exact ⟨receivers, processors, exporters, routes, one, two, three, four,
        (Option.some.inj made).symm.trans (joined _ _ _ _)⟩
    · rintro ⟨receivers, processors, exporters, routes, one, two, three, four, rfl⟩
      exact ⟨receivers, one, processors, two, exporters, three, routes, four, congrArg some (joined _ _ _ _)⟩

theorem quotedScalars_eq_zero_iff (values : List Term) :
    quotedScalars values = 0 ↔ ∀ value ∈ values, value.isBoolean = false := by
  unfold quotedScalars
  rw [List.countP_eq_zero]
  simp

/-- A stored pipeline is served as it was exactly when it is written with no boolean, and the
order of what is written does not depend on one. -/
theorem stored_pipeline_served_iff (sha256 : String → String) (lawful : ∀ entries, (enumerate entries).Perm entries)
    (pipeline : PipelineConfig) (distinct : pipeline.KeysDistinct) (updatedBy : String) (row : PipelineVersionRow)
    (written : pipelineVersionRow enumerate sha256 pipeline updatedBy = some row) :
    ServedUnchanged enumerate sha256 pipeline row ↔
      (∀ value ∈ pipeline.scalars, value.isBoolean = false) ∧ pipeline.OrderKept enumerate := by
  rw [servedUnchanged_iff written]
  obtain ⟨payload, found, -⟩ := Option.bind_eq_some_iff.mp written
  obtain ⟨valid, receivers, processors, exporters, routes, one, two, three, four, rfl⟩ :=
    toAgentYaml_eq_some_iff.mp found
  obtain ⟨receivers', one', lengthOne, orderOne⟩ := namedSection_normalized lawful _ _ distinct.receivers one
  obtain ⟨processors', two', lengthTwo, orderTwo⟩ := namedSection_normalized lawful _ _ distinct.processors two
  obtain ⟨exporters', three', lengthThree, orderThree⟩ := namedSection_normalized lawful _ _ distinct.exporters three
  obtain ⟨routes', four', lengthFour, orderFour⟩ := routeSection_normalized lawful distinct.routes four
  have back : toAgentYaml enumerate (pipeline.normalized enumerate) = some (String.ofList
      (textOf (headLines pipeline) ++
        (textOf receivers' ++ (textOf processors' ++ (textOf exporters' ++ textOf routes'))))) :=
    toAgentYaml_eq_some_iff.mpr ⟨validate_normalized lawful distinct valid, receivers', processors', exporters',
      routes', one', two', three', four', rfl⟩
  rw [back, found, Option.some.injEq, String.ofList_inj, List.append_cancel_left_eq,
    append_four_iff lengthOne lengthTwo lengthThree lengthFour, ← quotedScalars_eq_zero_iff,
    show quotedScalars pipeline.scalars = _ by
      rw [PipelineConfig.scalars, quotedScalars_append, quotedScalars_append, quotedScalars_append]]
  constructor
  · rintro ⟨none, first, second, third, last⟩
    exact ⟨none, (orderOne (by omega)).mpr first, (orderTwo (by omega)).mpr second,
      (orderThree (by omega)).mpr third, (orderFour (by omega)).mpr last⟩
  · rintro ⟨none, kept⟩
    exact ⟨none, (orderOne (by omega)).mp kept.receivers, (orderTwo (by omega)).mp kept.processors,
      (orderThree (by omega)).mp kept.exporters, (orderFour (by omega)).mp kept.routes⟩

end Pipelines

instance (entries : Entries) : Decidable (Distinct entries) :=
  inferInstanceAs (Decidable (entries.map fun entry => entry.1.text).Nodup)

instance : (value : Term) → Decidable (FieldDistinct value)
  | .map entries => inferInstanceAs (Decidable (Distinct entries))
  | .scalar _ => isTrue trivial
  | .list _ => isTrue trivial

instance (entry : Entries) : Decidable (EntryDistinct entry) :=
  decidable_of_iff (Distinct entry ∧ ∀ field ∈ entry, FieldDistinct field.2)
    ⟨fun both => ⟨both.1, both.2⟩, fun distinct => ⟨distinct.keys, distinct.fields⟩⟩

instance (pipeline : PipelineConfig) : Decidable pipeline.KeysDistinct :=
  decidable_of_iff ((∀ entry ∈ pipeline.receivers, EntryDistinct entry) ∧
      (∀ entry ∈ pipeline.processors, EntryDistinct entry) ∧
      (∀ entry ∈ pipeline.exporters, EntryDistinct entry) ∧ ∀ route ∈ pipeline.routes, EntryDistinct route)
    ⟨fun all => ⟨all.1, all.2.1, all.2.2.1, all.2.2.2⟩,
      fun distinct => ⟨distinct.receivers, distinct.processors, distinct.exporters, distinct.routes⟩⟩

/-- A pipeline with one entry in each section, and the given setting of its processor. -/
def batchPipeline (enabled : Scalar) : PipelineConfig where
  tenantId := "acme"
  name := "default"
  receivers := [[(.atom "name", .scalar (.string "otlp")), (.atom "protocol", .scalar (.string "otlp_grpc"))]]
  processors := [[(.atom "name", .scalar (.string "batch")), (.atom "enabled", .scalar enabled)]]
  exporters := [[(.atom "name", .scalar (.string "stdout")),
    (.atom "retry", .map [(.atom "max_attempts", .scalar (.integer 3))])]]
  routes := [[(.atom "signal", .scalar (.string "trace")),
    (.atom "exporters", .list [.scalar (.string "stdout")])]]
  version := 1

/-- The checksums of its two payloads. -/
def batchChecksum (payload : String) : String :=
  if payload = (toAgentYaml id (batchPipeline (.string "true"))).getD "" then
    "e668f9a14a3452075326f649392c01969404d11e90717c83711d93166ac9bdf3"
  else "04664543f6921bc39926194992e01de7c5451739790d114f84cfa744021b1f49"

theorem stored_pipeline_served_iff_string :
    ∃ row, pipelineVersionRow id batchChecksum (batchPipeline (.string "true")) "operator" = some row ∧
      (ServedUnchanged id batchChecksum (batchPipeline (.string "true")) row ↔
        (∀ value ∈ (batchPipeline (.string "true")).scalars, value.isBoolean = false) ∧
          (batchPipeline (.string "true")).OrderKept id) := by
  obtain ⟨row, written⟩ := Option.isSome_iff_exists.mp
    (show (pipelineVersionRow id batchChecksum (batchPipeline (.string "true")) "operator").isSome = true by
      decide +kernel)
  exact ⟨row, written, stored_pipeline_served_iff batchChecksum (fun _ => .refl _) (batchPipeline (.string "true"))
    (by decide) "operator" row written⟩

/-- A processor that is switched on by a boolean is served with a string. -/
theorem stored_boolean_quoted :
    ∃ row, pipelineVersionRow id batchChecksum (batchPipeline (.boolean true)) "operator" = some row ∧
      (batchPipeline (.boolean true)).KeysDistinct ∧
      ¬ServedUnchanged id batchChecksum (batchPipeline (.boolean true)) row := by
  obtain ⟨row, written⟩ := Option.isSome_iff_exists.mp
    (show (pipelineVersionRow id batchChecksum (batchPipeline (.boolean true)) "operator").isSome = true by
      decide +kernel)
  refine ⟨row, written, by decide, ?_⟩
  rw [servedUnchanged_iff written]
  decide +kernel

end TelemetryFabric.ControlPlane
