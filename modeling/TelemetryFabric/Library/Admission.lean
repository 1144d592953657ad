import Mathlib.Algebra.Order.Ring.Nat
import Mathlib.Data.List.Basic

/-! Admission against budgets. Items come one after another and each is charged to its
key, as long as the key's account has room for it. When the same items come a second
time, they find the accounts as the first pass left them: then at most the items of the
first pass are admitted, and all of them exactly when every account has room for both. -/

namespace TelemetryFabric.Library

section Admission

variable {α κ : Type} [DecidableEq κ] (key : α → κ) (size : α → Nat)
  (room : Nat → Prop) [DecidablePred room]

def charge (used : κ → Nat) (item : α) : κ → Nat :=
  fun other => if other = key item then used other + size item else used other

def admitted : (κ → Nat) → List α → List α
  | _, [] => []
  | used, item :: rest =>
      if room (used (key item) + size item) then item :: admitted (charge key size used item) rest
      else admitted used rest

/-- What the items of one key add up to. -/
def total (account : κ) (items : List α) : Nat :=
  ((items.filter fun item => key item = account).map size).sum

/-- The accounts once the items have been offered. -/
def charged (used : κ → Nat) (items : List α) : κ → Nat :=
  fun account => used account + total key size account (admitted key size room used items)

variable {key size room} {used later : κ → Nat} {items : List α}

theorem total_cons (account : κ) (item : α) (rest : List α) :
    total key size account (item :: rest) =
      (if account = key item then size item else 0) + total key size account rest := by
  unfold total
  by_cases same : key item = account
  · rw [List.filter_cons_of_pos (by simpa using same), if_pos same.symm]
    simp
  · rw [List.filter_cons_of_neg (by simpa using same), if_neg (Ne.symm same), Nat.zero_add]

theorem charge_add_total (account : κ) (item : α) (rest : List α) :
    charge key size used item account + total key size account rest =
      used account + total key size account (item :: rest) := by
  rw [total_cons, charge]
  split_ifs <;> omega

theorem charged_of_room {item : α} {rest : List α} (fits : room (used (key item) + size item)) :
    charged key size room used (item :: rest) =
      charged key size room (charge key size used item) rest := by
  funext account
  rw [charged, charged, admitted, if_pos fits, charge_add_total]

theorem charged_of_not_room {item : α} {rest : List α} (full : ¬room (used (key item) + size item)) :
    charged key size room used (item :: rest) = charged key size room used rest := by
  funext account
  rw [charged, charged, admitted, if_neg full]

theorem le_charged (account : κ) : used account ≤ charged key size room used items account :=
  Nat.le_add_right _ _

theorem le_charge (item : α) (account : κ) : used account ≤ charge key size used item account := by
  unfold charge
  split_ifs <;> omega

/-- An item that has been admitted has left its account within its budget. -/
theorem room_of_admitted {item : α} (member : item ∈ admitted key size room used items) :
    room (charged key size room used items (key item)) := by
  induction items generalizing used item with
  | nil => cases member
  | cons head rest ih =>
    by_cases fits : room (used (key head) + size head)
    · rw [charged_of_room fits]
      rw [admitted, if_pos fits] at member
      by_cases later : item ∈ admitted key size room (charge key size used head) rest
      · exact ih later
      -- the head itself: unless a later item of its key is admitted, its account stays
      · obtain rfl := (List.mem_cons.mp member).resolve_right later
        by_cases other : ∃ next ∈ admitted key size room (charge key size used item) rest, key next = key item
        · obtain ⟨next, inside, same⟩ := other
          rw [← same]
          exact ih inside
        · have nothing : total key size (key item) (admitted key size room (charge key size used item) rest) = 0 := by
            unfold total
            rw [List.filter_eq_nil_iff.mpr (by simpa using other)]
            rfl
          rw [charged, nothing, charge, if_pos rfl]
          exact fits
    · rw [admitted, if_neg fits] at member
      rw [charged_of_not_room fits]
      exact ih member

variable (lower : ∀ {small large : Nat}, small ≤ large → room large → room small)
include lower

/-- A second pass, over some of the items, admits nothing that the first one refused. -/
theorem admitted_sublist {some : List α} (sublist : some.Sublist items)
    (above : ∀ account, charged key size room used items account ≤ later account) :
    (admitted key size room later some).Sublist (admitted key size room used items) := by
  induction sublist generalizing used later with
  | slnil => exact List.Sublist.slnil
  | cons item sublist ih =>
    rw [admitted]
    split_ifs with fits
    · rw [charged_of_room fits] at above
      exact (ih above).cons item
    · rw [charged_of_not_room fits] at above
      exact ih above
  | cons_cons item sublist ih =>
    by_cases fits : room (used (key item) + size item)
    · rw [charged_of_room fits] at above
      rw [admitted, admitted, if_pos fits]
      split_ifs
      · exact (ih fun account => (above account).trans (le_charge item account)).cons_cons item
      · exact (ih above).cons item
    · have more : used (key item) ≤ later (key item) := (le_charged _).trans (above _)
      have refused : ¬ room (later (key item) + size item) :=
        fun enough => fits (lower (Nat.add_le_add_right more _) enough)
      rw [charged_of_not_room fits] at above
      rw [admitted, admitted, if_neg fits, if_neg refused]
      exact ih above

/-- It admits all of them if each account has room for them. -/
theorem admitted_again
    (enough : ∀ item ∈ admitted key size room used items,
      room (later (key item) + total key size (key item) (admitted key size room used items)))
    (above : ∀ account, charged key size room used items account ≤ later account) :
    admitted key size room later items = admitted key size room used items := by
  induction items generalizing used later with
  | nil => rfl
  | cons item rest ih =>
    by_cases fits : room (used (key item) + size item)
    · rw [charged_of_room fits] at above
      rw [admitted, if_pos fits] at enough
      have first : room (later (key item) + size item) := by
        refine lower ?_ (enough item (by simp))
        rw [total_cons, if_pos rfl]
        omega
      rw [admitted, admitted, if_pos fits, if_pos first, ih]
      · intro other member
        rw [charge_add_total]
        exact enough other (List.mem_cons_of_mem _ member)
      · exact fun account => (above account).trans (le_charge item account)
    · have more : used (key item) ≤ later (key item) := (le_charged _).trans (above _)
      have refused : ¬ room (later (key item) + size item) :=
        fun room => fits (lower (Nat.add_le_add_right more _) room)
      rw [charged_of_not_room fits] at above
      rw [admitted, if_neg fits] at enough
      rw [admitted, admitted, if_neg fits, if_neg refused]
      exact ih enough above

omit lower in
theorem charged_add_total (account : κ) : charged key size room used items account +
    total key size account (admitted key size room used items) =
      used account + 2 * total key size account (admitted key size room used items) := by
  rw [charged]
  omega

omit lower in
/-- Whatever is offered, if the same items are admitted again then there was room for both. -/
theorem room_of_admitted_again {other : List α}
    (same : admitted key size room (charged key size room used items) other = admitted key size room used items) :
    ∀ item ∈ admitted key size room used items,
      room (used (key item) + 2 * total key size (key item) (admitted key size room used items)) := by
  intro item member
  rw [← same] at member
  have within := room_of_admitted member
  rw [charged, same, charged_add_total] at within
  exact within

/-- The same items are admitted twice in a row exactly when each account has room for both. -/
theorem admitted_twice_iff :
    admitted key size room (charged key size room used items) items = admitted key size room used items ↔
      ∀ item ∈ admitted key size room used items,
        room (used (key item) + 2 * total key size (key item) (admitted key size room used items)) := by
  constructor
  · exact room_of_admitted_again
  · intro enough
    apply admitted_again lower
    · intro item member
      rw [charged_add_total]
      exact enough item member
    · exact fun _ => le_rfl

end Admission

end TelemetryFabric.Library
