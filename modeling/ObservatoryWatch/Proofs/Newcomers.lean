import Mathlib.Data.List.Induction
import ObservatoryWatch.Monitor.Seen

/-!
Newcomers.

Of the entries of a history those are kept that nothing like them came before: neither in what
was known at the start nor among those kept earlier. Likeness goes by fingerprints.
-/

namespace ObservatoryWatch.Monitor

open Observatory

namespace Seen

theorem add?_eq_none {seen : Seen} {fingerprint : Fingerprint} :
    seen.add? fingerprint = none ↔ fingerprint ∈ seen.fingerprints := by
  unfold add?
  split <;> simp_all

theorem add?_eq_some {seen larger : Seen} {fingerprint : Fingerprint} :
    seen.add? fingerprint = some larger ↔
      fingerprint ∉ seen.fingerprints ∧
        larger.fingerprints = fingerprint :: seen.fingerprints := by
  unfold add?
  split
  next known => simp [known]
  next unknown =>
    rw [Option.some.injEq]
    constructor
    · rintro rfl
      exact ⟨unknown, rfl⟩
    · rintro ⟨_, same⟩
      cases larger
      cases same
      rfl

theorem mem_add {seen : Seen} {fingerprint wanted : Fingerprint} :
    wanted ∈ (seen.add fingerprint).fingerprints ↔
      wanted ∈ seen.fingerprints ∨ wanted = fingerprint := by
  unfold add
  cases added : seen.add? fingerprint with
  | none =>
      have known := add?_eq_none.mp added
      simp only [Option.getD_none]
      constructor
      · exact .inl
      · rintro (earlier | rfl)
        · exact earlier
        · exact known
  | some larger =>
      rw [Option.getD_some, (add?_eq_some.mp added).2, List.mem_cons, or_comm]

end Seen

variable {α : Type} {mark : α → Fingerprint} {known : List Fingerprint}

/-- Keeps an entry unless its fingerprint is known or is that of one kept earlier. -/
def keep (mark : α → Fingerprint) (known : List Fingerprint) (kept : List α) (entry : α) :
    List α :=
  if known.contains (mark entry) || kept.any (mark · == mark entry) then kept
  else kept ++ [entry]

/-- The entries that are kept, in their order. -/
def newcomers (mark : α → Fingerprint) (known : List Fingerprint) (entries : List α) : List α :=
  entries.foldl (keep mark known) []

example : newcomers (fun text => [text]) [["a"]] ["b", "a", "b", "c"] = ["b", "c"] := by decide

theorem newcomers_append_singleton (entries : List α) (entry : α) :
    newcomers mark known (entries ++ [entry]) =
      keep mark known (newcomers mark known entries) entry := by
  unfold newcomers
  rw [List.foldl_append]
  rfl

theorem keep_eq_self {kept : List α} {entry : α}
    (old : mark entry ∈ known ∨ mark entry ∈ kept.map mark) :
    keep mark known kept entry = kept := by
  rw [List.mem_map] at old
  have found : (known.contains (mark entry) || kept.any (mark · == mark entry)) = true := by
    simpa using old
  exact if_pos found

theorem keep_eq_append {kept : List α} {entry : α}
    (new : ¬ (mark entry ∈ known ∨ mark entry ∈ kept.map mark)) :
    keep mark known kept entry = kept ++ [entry] := by
  rw [List.mem_map] at new
  have missing : ¬ (known.contains (mark entry) || kept.any (mark · == mark entry)) = true := by
    simpa using new
  exact if_neg missing

/-- Together with what is known, the newcomers have the fingerprints of all entries. -/
theorem mem_marks_newcomers (entries : List α) {fingerprint : Fingerprint} :
    (fingerprint ∈ known ∨ fingerprint ∈ (newcomers mark known entries).map mark) ↔
      fingerprint ∈ known ∨ fingerprint ∈ entries.map mark := by
  -- From the right, because the fold decides about an entry after all those before it.
  induction entries using List.reverseRecOn with
  | nil => rfl
  | append_singleton entries entry induction =>
      rw [newcomers_append_singleton, List.map_append, List.mem_append, ← or_assoc, ← induction]
      by_cases old : mark entry ∈ known ∨ mark entry ∈ (newcomers mark known entries).map mark
      · rw [keep_eq_self old]
        constructor
        · exact .inl
        · rintro (earlier | last)
          · exact earlier
          · rw [List.map_singleton, List.mem_singleton] at last
            exact last ▸ old
      · rw [keep_eq_append old, List.map_append, List.mem_append, or_assoc]

/-- No fingerprint comes twice among the newcomers, and none of them was known. -/
theorem nodup_newcomers (entries : List α) :
    ((newcomers mark known entries).map mark).Nodup ∧
      ∀ entry ∈ newcomers mark known entries, mark entry ∉ known := by
  induction entries using List.reverseRecOn with
  | nil => exact ⟨List.nodup_nil, by simp [newcomers]⟩
  | append_singleton entries entry induction =>
      rw [newcomers_append_singleton]
      by_cases old : mark entry ∈ known ∨ mark entry ∈ (newcomers mark known entries).map mark
      · rw [keep_eq_self old]
        exact induction
      · rw [keep_eq_append old]
        constructor
        · rw [List.map_append, List.nodup_append]
          refine ⟨induction.1, by simp, ?_⟩
          rintro fingerprint member _ last rfl
          rw [List.map_singleton, List.mem_singleton] at last
          exact old (.inr (last ▸ member))
        · intro kept member
          rcases List.mem_append.mp member with member | member
          · exact induction.2 kept member
          · rw [List.mem_singleton] at member
            exact fun before => old (.inl (member ▸ before))

/-! ## Tallies -/

/-- After so many entries: the newcomers were handed over, and the fingerprints of all entries
are remembered together with those that were known. -/
structure Tally (mark : α → Fingerprint) (known : List Fingerprint) (considered handed : List α)
    (seen : Seen) : Prop where
  handed_eq : handed = newcomers mark known considered
  mem_seen : ∀ fingerprint, fingerprint ∈ seen.fingerprints ↔
    fingerprint ∈ known ∨ fingerprint ∈ considered.map mark

namespace Tally

variable {considered handed : List α} {seen : Seen} {entry : α}

/-- A fingerprint is remembered exactly if nothing with it would be handed over any more. -/
theorem mem_seen_iff (tally : Tally mark known considered handed seen)
    {fingerprint : Fingerprint} :
    fingerprint ∈ seen.fingerprints ↔ fingerprint ∈ known ∨ fingerprint ∈ handed.map mark := by
  rw [tally.mem_seen, tally.handed_eq, mem_marks_newcomers]

/-- An entry that is remembered is passed over. -/
theorem pass (tally : Tally mark known considered handed seen)
    (old : mark entry ∈ seen.fingerprints) :
    Tally mark known (considered ++ [entry]) handed seen := by
  constructor
  · have known := tally.mem_seen_iff.mp old
    rw [tally.handed_eq] at known
    rw [newcomers_append_singleton, keep_eq_self known]
    exact tally.handed_eq
  · intro fingerprint
    rw [List.map_append, List.mem_append, ← or_assoc, ← tally.mem_seen]
    refine ⟨.inl, Or.rec id fun last => ?_⟩
    rw [List.map_singleton, List.mem_singleton] at last
    exact last ▸ old

/-- An entry that is not remembered is handed over and remembered. -/
theorem take {larger : Seen} (tally : Tally mark known considered handed seen)
    (added : seen.add? (mark entry) = some larger) :
    Tally mark known (considered ++ [entry]) (handed ++ [entry]) larger := by
  rcases Seen.add?_eq_some.mp added with ⟨new, all⟩
  constructor
  · rw [tally.mem_seen_iff, tally.handed_eq] at new
    rw [newcomers_append_singleton, keep_eq_append new, tally.handed_eq]
  · intro fingerprint
    rw [all, List.mem_cons, or_comm, tally.mem_seen, List.map_append, List.mem_append, or_assoc,
      List.map_singleton, List.mem_singleton]

end Tally

/-- Of the histories obtained, the first counts as known; of the others so much was taken into
account, and so much is pending. -/
def Obtained (histories : List (List α)) (history considered pending : List α) : Prop :=
  ∃ later, histories = history :: later ∧ later.flatten = considered ++ pending

namespace Obtained

variable {histories : List (List α)} {history considered pending : List α} {entry : α}

theorem fetch (obtained : Obtained histories history considered []) (entries : List α) :
    Obtained (histories ++ [entries]) history considered entries := by
  rcases obtained with ⟨later, rfl, same⟩
  refine ⟨later ++ [entries], rfl, ?_⟩
  rw [List.flatten_append, same, List.append_nil, List.flatten_singleton]

theorem consider (obtained : Obtained histories history considered (entry :: pending)) :
    Obtained histories history (considered ++ [entry]) pending := by
  rcases obtained with ⟨later, rfl, same⟩
  exact ⟨later, rfl, by rw [same, List.append_assoc, List.singleton_append]⟩

end Obtained

/-! ## Events -/

def telling (events : List Event) : List Event := events.filter (!·.changesNothing)

/-- The events of later histories that are new after the history at the start. -/
def newEvents (history later : List Event) : List Event :=
  newcomers Event.fingerprint ((telling history).map Event.fingerprint) (telling later)

theorem mem_telling {events : List Event} {event : Event} :
    event ∈ telling events ↔ event ∈ events ∧ event.changesNothing = false := by
  simp [telling]

theorem telling_append (first second : List Event) :
    telling (first ++ second) = telling first ++ telling second :=
  List.filter_append first second

theorem telling_singleton (event : Event) :
    telling [event] = if event.changesNothing then [] else [event] := by
  cases silent : event.changesNothing <;> simp [telling, silent]

namespace Tally

variable {considered handed : List Event} {seen : Seen} {event : Event}

/-- An event that was passed over is accounted for all the same. -/
theorem pass_event (tally : Tally Event.fingerprint known (telling considered) handed seen)
    (old : event.changesNothing = true ∨ event.fingerprint ∈ seen.fingerprints) :
    Tally Event.fingerprint known (telling (considered ++ [event])) handed seen := by
  rw [telling_append, telling_singleton]
  cases silent : event.changesNothing with
  | true =>
      rw [if_pos rfl, List.append_nil]
      exact tally
  | false =>
      rw [if_neg Bool.false_ne_true]
      exact tally.pass (old.resolve_left (by simp [silent]))

theorem take_event {larger : Seen}
    (tally : Tally Event.fingerprint known (telling considered) handed seen)
    (tells : event.changesNothing = false) (added : seen.add? event.fingerprint = some larger) :
    Tally Event.fingerprint known (telling (considered ++ [event])) (handed ++ [event]) larger := by
  rw [telling_append, telling_singleton, tells, if_neg Bool.false_ne_true]
  exact tally.take added

end Tally

namespace Seen

theorem mem_foldl_addEvent (history : List Event) {seen : Seen} {fingerprint : Fingerprint} :
    fingerprint ∈ (history.foldl addEvent seen).fingerprints ↔
      fingerprint ∈ seen.fingerprints ∨ fingerprint ∈ (telling history).map Event.fingerprint := by
  induction history generalizing seen with
  | nil => simp [telling]
  | cons event rest induction =>
      rw [List.foldl_cons, induction, ← List.singleton_append, telling_append, telling_singleton]
      unfold addEvent
      split
      · simp
      · simp [mem_add, or_assoc]

theorem mem_foldl_addImage (history : List Image) {seen : Seen} {fingerprint : Fingerprint} :
    fingerprint ∈ (history.foldl addImage seen).fingerprints ↔
      fingerprint ∈ seen.fingerprints ∨ fingerprint ∈ history.map Image.fingerprint := by
  induction history generalizing seen with
  | nil => simp
  | cons image rest induction =>
      rw [List.foldl_cons, induction]
      simp [addImage, mem_add, or_assoc, eq_comm]

end Seen

end ObservatoryWatch.Monitor
