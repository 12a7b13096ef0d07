import Mathlib.Data.List.TakeDrop
import Mathlib.Data.List.TakeWhile
import ObservatoryWatch.Http.Url
import ObservatoryWatch.Proofs.PercentReading

/-!
Addresses with segments added to their paths.

Segments whose characters need no escape, and none of which is a dot segment, stay as they are when
they are added to the text of an address: the address that is read has them at the end of its path
and is otherwise the address before. This takes a text without the marks of a query or of a
fragment, since these would begin before the segments.
-/

namespace ObservatoryWatch.Text

/-! ## Segments of texts put together -/

theorem segmentsOf_of_not_mem {mark : Char} {text : List Char} (clear : mark ∉ text) :
    segmentsOf mark text = [text] := by
  induction text with
  | nil => rfl
  | cons character rest ih =>
      rw [List.mem_cons, not_or] at clear
      rw [segmentsOf, if_neg (by simpa using Ne.symm clear.1), ih clear.2]

theorem segmentsOf_ne_nil (mark : Char) (text : List Char) : segmentsOf mark text ≠ [] := by
  cases text with
  | nil => exact List.cons_ne_nil _ _
  | cons character rest =>
      rw [segmentsOf]
      split
      next => exact List.cons_ne_nil _ _
      next => split <;> exact List.cons_ne_nil _ _

theorem segmentsOf_append (mark : Char) (text rest : List Char) :
    segmentsOf mark (text ++ mark :: rest) = segmentsOf mark text ++ segmentsOf mark rest := by
  induction text with
  | nil => simp [segmentsOf]
  | cons character text ih =>
      rw [List.cons_append, segmentsOf, segmentsOf, ih]
      by_cases divides : (character == mark) = true
      · rw [if_pos divides, if_pos divides, List.cons_append]
      · rw [if_neg divides, if_neg divides]
        cases found : segmentsOf mark text with
        | nil => exact absurd found (segmentsOf_ne_nil mark text)
        | cons segment others => rfl

/-- Segments that need no escape and that are no dot segments. -/
structure Plain (segment : String) : Prop where
  stands : ∀ character ∈ segment.toList, standsInSegment character = true
  undotted : segment ≠ "." ∧ segment ≠ ".."

instance (segment : String) : Decidable (Plain segment) :=
  decidable_of_iff
    (segment.toList.all standsInSegment = true ∧ segment ≠ "." ∧ segment ≠ "..")
    ⟨fun ⟨stands, undotted⟩ => ⟨List.all_eq_true.mp stands, undotted⟩,
      fun plain => ⟨List.all_eq_true.mpr plain.stands, plain.undotted⟩⟩

theorem Plain.not_mem {segment : String} {mark : Char} (plain : Plain segment)
    (apart : standsInSegment mark = false) : mark ∉ segment.toList :=
  fun member => ne_of_standsInSegment (plain.stands mark member) apart rfl

/-- The segment of a text is plain unless the text is itself a dot segment. -/
theorem plain_percentSegment {text : String} (undotted : text ≠ "." ∧ text ≠ "..") :
    Plain (percentSegment text) := by
  have dot : percentSegment "." = "." := by decide
  have dots : percentSegment ".." = ".." := by decide
  exact ⟨standsInSegment_percentSegment text,
    fun same => undotted.1 (percentSegment_injective (same.trans dot.symm)),
    fun same => undotted.2 (percentSegment_injective (same.trans dots.symm))⟩

/-- Segments as they follow in a path, each after a slash. -/
def slashed (segments : List String) : String :=
  String.ofList (segments.flatMap fun segment => '/' :: segment.toList)

theorem slashed_nil : slashed [] = "" := rfl

theorem slashed_cons (segment : String) (others : List String) :
    slashed (segment :: others) = "/" ++ segment ++ slashed others := by
  apply String.toList_injective
  simp [slashed]

theorem slashed_singleton (segment : String) : slashed [segment] = "/" ++ segment := by
  rw [slashed_cons, slashed_nil, String.append_empty]

theorem slashed_append (segments others : List String) :
    slashed (segments ++ others) = slashed segments ++ slashed others := by
  rw [slashed, List.flatMap_append, String.ofList_append, slashed, slashed]

theorem segments_append_slash {segment : String} (clear : '/' ∉ segment.toList) (text : String) :
    segments '/' (text ++ "/" ++ segment) = segments '/' text ++ [segment] := by
  have characters : (text ++ "/" ++ segment).toList = text.toList ++ '/' :: segment.toList := by
    simp
  rw [segments, characters, segmentsOf_append, segmentsOf_of_not_mem clear, List.map_append,
    List.map_singleton, String.ofList_toList, segments]

theorem slashed_begins {segment : String} {others : List String} (named : segment ≠ "")
    (plain : ∀ added ∈ segment :: others, Plain added) : ∃ first rest, first ≠ '/' ∧
      (slashed (segment :: others)).toList = '/' :: first :: rest := by
  have clear : '/' ∉ segment.toList := (plain segment List.mem_cons_self).not_mem rfl
  cases characters : segment.toList with
  | nil => exact absurd (String.toList_eq_nil_iff.mp characters) named
  | cons first rest =>
      rw [characters, List.mem_cons, not_or] at clear
      refine ⟨first, rest ++ (slashed others).toList, Ne.symm clear.1, ?_⟩
      rw [slashed_cons, String.toList_append, String.toList_append, characters]
      rfl

section

variable {added : List String} (plain : ∀ segment ∈ added, Plain segment)
include plain

theorem segments_append_slashed (text : String) :
    segments '/' (text ++ slashed added) = segments '/' text ++ added := by
  induction added generalizing text with
  | nil => rw [slashed_nil, String.append_empty, List.append_nil]
  | cons segment others ih =>
      rw [List.forall_mem_cons] at plain
      rw [slashed_cons, ← String.append_assoc, ← String.append_assoc, ih plain.2,
        segments_append_slash (plain.1.not_mem rfl), List.append_assoc, List.singleton_append]

/-- Slashes apart, the characters are those that stand in segments. -/
theorem mem_slashed {character : Char} (member : character ∈ (slashed added).toList) :
    character = '/' ∨ standsInSegment character = true := by
  rw [slashed, String.toList_ofList, List.mem_flatMap] at member
  rcases member with ⟨segment, among, member⟩
  exact (List.mem_cons.mp member).imp_right ((plain segment among).stands character)

theorem not_mem_slashed {mark : Char} (slash : mark ≠ '/') (apart : standsInSegment mark = false) :
    mark ∉ (slashed added).toList := fun member =>
  (mem_slashed plain member).elim slash fun stands => ne_of_standsInSegment stands apart rfl

end

theorem intercalate_append_slashed {front : List String} (begun : front ≠ [])
    (added : List String) :
    "/".intercalate (front ++ added) = "/".intercalate front ++ slashed added := by
  induction added generalizing front with
  | nil => rw [slashed_nil, List.append_nil, String.append_empty]
  | cons segment others ih =>
      rw [List.append_cons, ih (List.append_ne_nil_of_left_ne_nil begun [segment]),
        String.intercalate_append_of_ne_nil begun (List.cons_ne_nil segment []),
        String.intercalate_singleton, slashed_cons, String.append_assoc, String.append_assoc,
        String.append_assoc]

end ObservatoryWatch.Text

namespace ObservatoryWatch.Http.Url

open Text

/-! ## Dot segments -/

theorem foldl_pushSegment {added : List String} (plain : ∀ segment ∈ added, Plain segment)
    (earlier : List String) : added.foldl pushSegment earlier = added.reverse ++ earlier := by
  induction added generalizing earlier with
  | nil => rfl
  | cons segment others ih =>
      rw [List.forall_mem_cons] at plain
      have pushed : pushSegment earlier segment = segment :: earlier := by
        unfold pushSegment
        rw [if_neg (by simpa using plain.1.undotted.1), if_neg (by simpa using plain.1.undotted.2)]
      rw [List.foldl_cons, pushed, ih plain.2, List.reverse_cons, List.append_assoc,
        List.singleton_append]

/-- Segments in reverse that end in the empty one, with which a path begins. -/
def Rooted (earlier : List String) : Prop := ∃ inner, earlier = inner ++ [""]

theorem Rooted.pushSegment {earlier : List String} (rooted : Rooted earlier) (segment : String) :
    Rooted (pushSegment earlier segment) := by
  rcases rooted with ⟨inner, rfl⟩
  unfold Url.pushSegment
  split
  next => exact ⟨inner, rfl⟩
  split
  next =>
    cases inner with
    | nil => exact ⟨[], rfl⟩
    | cons last inner =>
        refine ⟨inner, ?_⟩
        cases inner <;> simp
  next => exact ⟨segment :: inner, rfl⟩

theorem Rooted.foldl_pushSegment {earlier : List String} (rooted : Rooted earlier)
    (segments : List String) : Rooted (segments.foldl Url.pushSegment earlier) := by
  induction segments generalizing earlier with
  | nil => exact rooted
  | cons segment others ih => exact ih (rooted.pushSegment segment)

/-- Dot segments before them do not touch the segments that are added. -/
theorem withoutDots_append_slashed {path : String} {rest : List String}
    (begun : segments '/' path = "" :: rest) {added : List String}
    (plain : ∀ segment ∈ added, Plain segment) :
    withoutDots (path ++ slashed added) = withoutDots path ++ slashed added := by
  have rooted : Rooted ((segments '/' path).foldl pushSegment []) := by
    rw [begun]
    exact Rooted.foldl_pushSegment ⟨[], rfl⟩ rest
  -- Something is left of the path, so the first segment added comes after a slash.
  have kept : ((segments '/' path).foldl pushSegment []).reverse ≠ [] := by
    rcases rooted with ⟨inner, same⟩
    simp [same]
  rw [withoutDots, segments_append_slashed plain, List.foldl_append, foldl_pushSegment plain,
    List.reverse_append, List.reverse_reverse, intercalate_append_slashed kept, withoutDots]

/-! ## Escapes -/

theorem escapeWith_append (excluded text rest : List Char) :
    escapeWith excluded (text ++ rest) = escapeWith excluded text ++ escapeWith excluded rest := by
  rw [escapeWith, List.flatMap_append, String.ofList_append, escapeWith, escapeWith]

theorem escapeWith_of_forall {excluded text : List Char}
    (allowed : ∀ character ∈ text, isPrintableExcept excluded character = true) :
    escapeWith excluded text = String.ofList text := by
  induction text with
  | nil => rfl
  | cons character rest ih =>
      rw [List.forall_mem_cons] at allowed
      have first : escapeWith excluded [character] = String.ofList [character] := by
        rw [escapeWith, List.flatMap_singleton, if_pos allowed.1]
      rw [← List.singleton_append, escapeWith_append, first, ih allowed.2, String.ofList_append]

theorem isPrintableExcept_of_standsInSegment {character : Char}
    (stands : standsInSegment character = true) :
    isPrintableExcept excludedFromPath character = true := by
  have settled := of_ascii
    (fun character => !standsInSegment character || isPrintableExcept excludedFromPath character)
    (by decide) (toNat_lt_of_standsInSegment stands)
  simpa [stands] using settled

theorem escapeWith_slashed {added : List String} (plain : ∀ segment ∈ added, Plain segment) :
    escapeWith excludedFromPath (slashed added).toList = slashed added := by
  rw [escapeWith_of_forall, String.ofList_toList]
  intro character member
  rcases mem_slashed plain member with rfl | stands
  · decide
  · exact isPrintableExcept_of_standsInSegment stands

/-- The path of an address begins with an empty segment, also when it is empty itself. -/
theorem segments_escapeWith_path (place : List Char) :
    ∃ rest, segments '/' (escapeWith excludedFromPath (place.span (· != '/')).2) = "" :: rest := by
  rw [List.span_eq_takeWhile_dropWhile]
  have head := List.head?_dropWhile_not (· != '/') place
  dsimp only
  cases found : place.dropWhile (· != '/') with
  | nil => exact ⟨[], rfl⟩
  | cons first rest =>
      rw [found, List.head?_cons] at head
      obtain rfl : first = '/' := by simpa using head
      have slash : escapeWith excludedFromPath ['/'] = "/" := by decide
      rw [← List.singleton_append, escapeWith_append, slash, segments, String.toList_append]
      exact ⟨_, rfl⟩

/-! ## Parts -/

theorem bne_of_not_mem {mark : Char} {text : List Char} (absent : mark ∉ text) :
    ∀ character ∈ text, (character != mark) = true := by
  intro character member
  rw [bne_iff_ne]
  rintro rfl
  exact absent member

theorem span_of_not_mem {mark : Char} {text : List Char} (absent : mark ∉ text) :
    text.span (· != mark) = (text, []) := by
  have all := bne_of_not_mem absent
  rw [List.span_eq_takeWhile_dropWhile, List.takeWhile_eq_self_iff.mpr all,
    List.dropWhile_eq_nil_iff.mpr all]

theorem span_append_cons {mark : Char} {before : List Char} (absent : mark ∉ before)
    (after : List Char) : (before ++ mark :: after).span (· != mark) = (before, mark :: after) := by
  have all := bne_of_not_mem absent
  rw [List.span_eq_takeWhile_dropWhile, List.takeWhile_append_of_pos all,
    List.dropWhile_append_of_pos all]
  simp

theorem splitAt_of_not_mem {mark : Char} {text : List Char} (absent : mark ∉ text) :
    splitAt mark text = (text, none) := by
  rw [splitAt, span_of_not_mem absent]

theorem splitAt_append_cons {mark : Char} {before : List Char} (absent : mark ∉ before)
    (after : List Char) : splitAt mark (before ++ mark :: after) = (before, some after) := by
  rw [splitAt, span_append_cons absent]

/-- What follows after a slash does not change where the first slash is. -/
theorem span_append_slash (place rest : List Char) :
    (place ++ '/' :: rest).span (· != '/') =
      ((place.span (· != '/')).1, (place.span (· != '/')).2 ++ '/' :: rest) := by
  by_cases present : '/' ∈ place
  · rcases List.eq_append_cons_of_mem present with ⟨before, after, rfl, absent⟩
    rw [List.append_assoc, List.cons_append, span_append_cons absent, span_append_cons absent]
    rfl
  · rw [span_append_cons present, span_of_not_mem present]
    rfl

/-- A text that does not end in a slash names its scheme, or none, whatever follows after one
slash. -/
theorem splitScheme_append {text rest : List Char} {first : Char}
    (unended : text.getLast? ≠ some '/') (single : first ≠ '/') (absent : ':' ∉ first :: rest) :
    splitScheme (text ++ '/' :: first :: rest) =
      ((splitScheme text).1, (splitScheme text).2 ++ '/' :: first :: rest) := by
  by_cases present : ':' ∈ text
  · rcases List.eq_append_cons_of_mem present with ⟨scheme, after, rfl, clear⟩
    rw [List.append_assoc, List.cons_append]
    unfold splitScheme
    rw [splitAt_append_cons clear, splitAt_append_cons clear]
    -- Two slashes after the colon name a scheme. One of them cannot be the text's and the other one
    -- the first of what is added, for the text does not end in a slash.
    match after with
    | [] => simp [single]
    | [second] =>
        have unslashed : second ≠ '/' := by simpa using unended
        simp [unslashed]
    | second :: third :: others =>
        rw [List.cons_append, List.cons_append]
        split
        next same =>
          cases same
          rfl
        next other =>
          split
          next same =>
            cases same
            exact absurd rfl (other _ _)
          next => simp
  · have still : ':' ∉ text ++ '/' :: first :: rest := by
      rw [List.mem_append, not_or]
      refine ⟨present, ?_⟩
      rw [List.mem_cons, not_or]
      exact ⟨by decide, absent⟩
    unfold splitScheme
    rw [splitAt_of_not_mem present, splitAt_of_not_mem still]

theorem mem_of_mem_splitScheme {text : List Char} {character : Char}
    (member : character ∈ (splitScheme text).2) : character ∈ text := by
  by_cases present : ':' ∈ text
  · rcases List.eq_append_cons_of_mem present with ⟨scheme, after, rfl, clear⟩
    unfold splitScheme at member
    rw [splitAt_append_cons clear] at member
    split at member
    next same =>
      cases same
      simp [member]
    next => exact member
  · unfold splitScheme at member
    rwa [splitAt_of_not_mem present] at member

/-! ## Whole addresses -/

/-- An address without a query and without a fragment. -/
theorem ofText_of_not_mem {text : String} (unqueried : '?' ∉ text.toList)
    (unmarked : '#' ∉ text.toList) :
    ofText text =
      let named := splitScheme text.toList
      let place := named.2.span (· != '/')
      { scheme := named.1
        authority := normalAuthority named.1 (String.ofList place.1)
        path := withoutDots (escapeWith excludedFromPath place.2)
        query := none
        fragment := none } := by
  have absent : '?' ∉ (splitScheme text.toList).2 := fun member =>
    unqueried (mem_of_mem_splitScheme member)
  rw [ofText, splitAt_of_not_mem unmarked]
  dsimp only
  rw [splitAt_of_not_mem absent]
  rfl

/-- Adding segments to the text of an address adds them to its path and changes nothing else. -/
theorem ofText_append_slashed {text segment : String} {others : List String}
    (unended : text.toList.getLast? ≠ some '/') (unqueried : '?' ∉ text.toList)
    (unmarked : '#' ∉ text.toList) (named : segment ≠ "")
    (plain : ∀ added ∈ segment :: others, Plain added) :
    ofText (text ++ slashed (segment :: others)) =
      { ofText text with path := (ofText text).path ++ slashed (segment :: others) } := by
  have absent {mark : Char} (slash : mark ≠ '/') (apart : standsInSegment mark = false)
      (before : mark ∉ text.toList) : mark ∉ (text ++ slashed (segment :: others)).toList := by
    rw [String.toList_append, List.mem_append, not_or]
    exact ⟨before, not_mem_slashed plain slash apart⟩
  have colon : ':' ∉ (slashed (segment :: others)).toList :=
    not_mem_slashed plain (by decide) rfl
  rcases slashed_begins named plain with ⟨first, rest, single, characters⟩
  -- Part after part: scheme, authority, escapes and dot segments.
  have scheme := splitScheme_append unended single
    (List.not_mem_of_not_mem_cons (characters ▸ colon))
  rcases segments_escapeWith_path (splitScheme text.toList).2 with ⟨_, path⟩
  rw [ofText_of_not_mem (absent (by decide) rfl unqueried) (absent (by decide) rfl unmarked),
    ofText_of_not_mem unqueried unmarked, String.toList_append, characters, scheme]
  dsimp only
  rw [span_append_slash, escapeWith_append, ← characters, escapeWith_slashed plain,
    withoutDots_append_slashed path plain]

/-- Without a query the host is told the path and nothing else. -/
theorem target_append_slashed {url : Url} (unqueried : url.query = none) (segment : String)
    (others : List String) :
    { url with path := url.path ++ slashed (segment :: others) : Url }.target =
      url.path ++ slashed (segment :: others) := by
  have nonempty : ¬ (url.path ++ slashed (segment :: others)).isEmpty = true := by
    simp [slashed_cons]
  unfold target
  dsimp only
  rw [unqueried, if_neg nonempty, marked, String.append_empty]

/-! ## Last slashes -/

theorem getLast?_withoutLastSlashes (address : String) :
    (withoutLastSlashes address).toList.getLast? ≠ some '/' := by
  rw [withoutLastSlashes, String.toList_ofList, List.getLast?_reverse]
  have head := List.head?_dropWhile_not (· == '/') address.toList.reverse
  intro slash
  rw [slash] at head
  cases head

theorem not_mem_withoutLastSlashes {address : String} {mark : Char}
    (absent : mark ∉ address.toList) : mark ∉ (withoutLastSlashes address).toList := by
  intro member
  rw [withoutLastSlashes, String.toList_ofList, List.mem_reverse] at member
  exact absent (List.mem_reverse.mp ((List.dropWhile_sublist _).mem member))

end ObservatoryWatch.Http.Url
