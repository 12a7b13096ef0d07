import ObservatoryWatch.Proofs.WrittenJson

/-!
Values in the form of log lines.

No control character stands in a written value, since texts escape them and nothing else has any, so
a value never spans two lines. Texts are read back whatever follows them, and so is an object if
what stands under its keys is and no key occurs twice.
-/

namespace ObservatoryWatch.Json

open Number Text

/-! ## Control characters -/

/-- A text without control characters, among which are the ends of lines. -/
def OneLine (text : List Char) : Prop := ∀ character ∈ text, ' ' ≤ character

instance : DecidablePred OneLine := fun text => List.decidableBAll (' ' ≤ ·) text

theorem OneLine.cons {first : Char} {rest : List Char} (one : ' ' ≤ first) (others : OneLine rest) :
    OneLine (first :: rest) := List.forall_mem_cons.mpr ⟨one, others⟩

theorem OneLine.append {early late : List Char} (first : OneLine early) (second : OneLine late) :
    OneLine (early ++ late) := List.forall_mem_append.mpr ⟨first, second⟩

theorem OneLine.flatMap {α : Type} {written : α → List Char} {values : List α}
    (each : ∀ value ∈ values, OneLine (written value)) : OneLine (values.flatMap written) := by
  intro character member
  rcases List.mem_flatMap.mp member with ⟨value, inside, here⟩
  exact each value inside character here

theorem OneLine.intercalate {between : String} {texts : List String}
    (separator : OneLine between.toList) (each : ∀ text ∈ texts, OneLine text.toList) :
    OneLine (between.intercalate texts).toList := by
  rw [String.toList_intercalate]
  induction texts with
  | nil => exact nofun
  | cons text rest induction =>
      have first := each text List.mem_cons_self
      have others := induction fun other inside => each other (List.mem_cons_of_mem _ inside)
      cases rest with
      | nil => simpa using first
      | cons next rest =>
          rw [List.map_cons, List.map_cons, List.intercalate_cons_cons]
          exact .append (.append first separator) others

theorem OneLine.numeral {text : List Char} (numeral : Numeral text) : OneLine text := by
  intro character member
  have kind := numeral character member
  rw [isNumeral, Bool.or_eq_true, decide_eq_true_eq] at kind
  rcases kind with digit | sign
  · exact Nat.le_trans (by decide : ' '.toNat ≤ '0'.toNat) (Char.isDigit_iff_toNat.mp digit).1
  · have signs : OneLine ['-', '+', '.', 'e'] := by decide
    exact signs character sign

theorem OneLine.hexPair (octet : UInt8) : OneLine (hexPair lowerHexDigits octet) :=
  fun digit member => (ordinary_hexPair octet digit member).2.2

theorem OneLine.unitEscape (unit : Nat) : OneLine (unitEscape unit) :=
  .cons (by decide) (.cons (by decide) (.append (.hexPair _) (.hexPair _)))

theorem OneLine.writeChar {form : Form} (escapes : form.EscapesControls) (character : Char) :
    OneLine (writeChar form character) := by
  unfold Json.writeChar
  split
  next mark listed =>
    have marks : ∀ entry ∈ shortEscapes, OneLine ['\\', entry.2] := by decide
    exact marks (character, mark) (mem_shortEscapes listed)
  next unlisted =>
    split
    next plain => exact .cons (escapes character plain) nofun
    next control =>
      unfold longEscape
      dsimp only
      split
      next => exact .unitEscape _
      next => exact .append (.unitEscape _) (.unitEscape _)

theorem OneLine.writePoint {form : Form} (escapes : form.EscapesControls) (point : CodePoint) :
    OneLine (writePoint form point) := by
  cases point with
  | char character => exact .writeChar escapes character
  | lone surrogate => exact .unitEscape surrogate.code

theorem OneLine.writeString {form : Form} (escapes : form.EscapesControls) (text : String) :
    OneLine (writeString form text).toList := by
  rw [toList_writeString]
  exact .cons (by decide)
    (.append (.flatMap fun character _ => .writeChar escapes character) (by decide))

theorem OneLine.writeRagged {form : Form} (escapes : form.EscapesControls) (text : Ragged) :
    OneLine (writeRagged form text).toList := by
  have written : (Json.writeRagged form text).toList =
      '"' :: (text.points.flatMap (Json.writePoint form) ++ ['"']) := String.toList_ofList
  rw [written]
  exact .cons (by decide)
    (.append (.flatMap fun point _ => .writePoint escapes point) (by decide))

/-! ## The form of log lines -/

theorem escapesControls_line : Form.line.EscapesControls :=
  fun _ plain => of_decide_eq_true plain

theorem oneLine_of_isBare {value : Json} (bare : value.isBare = true) :
    OneLine (value.write .line).toList := by
  cases value with
  | null => decide
  | bool truth => cases truth <;> decide
  | integer number => exact .numeral (numeral_toString number)
  | float number =>
      cases number with
      | nan => decide
      | infinite negative => cases negative <;> decide
      | finite negative units =>
          have text : ((Json.float (.finite negative units ‹_›)).write .line).toList =
              (signText negative).toList ++
                (namedNumbers.writeDecimal (shortest units)).toList := String.toList_append
          rw [text]
          exact .numeral ((numeral_signText negative).append (numeral_writeDecimal _ _))
  | string => cases bare
  | ragged => cases bare
  | array => cases bare
  | object => cases bare

/-- A key, a colon, a blank and the value that stands under the key. -/
def memberLine (member : String × Json) : String :=
  writeString .line member.1 ++ ": " ++ member.2.write .line

/-- The members of an object without its brackets. -/
def membersLine (members : List (String × Json)) : List Char :=
  (", ".intercalate (members.map memberLine)).toList

theorem toList_object (members : List (String × Json)) :
    ((Json.object members).write .line).toList = '\x7b' :: (membersLine members ++ ['\x7d']) := by
  rw [write, String.toList_append, String.toList_append, writeMembers_eq_map]
  rfl

theorem toList_array (items : List Json) :
    ((Json.array items).write .line).toList =
      '[' :: ((", ".intercalate (items.map (write .line))).toList ++ [']']) := by
  rw [write, String.toList_append, String.toList_append, writeItems_eq_map]
  rfl

/-- No value is written with a control character. -/
theorem oneLine_write (value : Json) : OneLine (value.write .line).toList := by
  have comma : OneLine ", ".toList := by decide
  have colon : OneLine ": ".toList := by decide
  induction value using inside_induction with
  | bare value bare => exact oneLine_of_isBare bare
  | string text => exact .writeString escapesControls_line text
  | ragged text => exact .writeRagged escapesControls_line text
  | array items each =>
      have texts : ∀ text ∈ items.map (write .line), OneLine text.toList :=
        List.forall_mem_map.mpr each
      rw [toList_array]
      exact .cons (by decide) (.append (.intercalate comma texts) (by decide))
  | object members each =>
      have texts : ∀ text ∈ members.map memberLine, OneLine text.toList := by
        refine List.forall_mem_map.mpr fun member inside => ?_
        rw [memberLine, String.toList_append, String.toList_append]
        exact .append (.append (.writeString escapesControls_line _) colon) (each member inside)
      rw [toList_object]
      exact .cons (by decide) (.append (.intercalate comma texts) (by decide))

/-! ## Reading back -/

/-- A value that is read from its text, whatever follows the text. The reader needs no more steps
than it takes for any text of this length. -/
structure Legible (value : Json) : Prop where
  starts : ∀ rest, skipGaps (points (value.write .line).toList ++ rest) =
    points (value.write .line).toList ++ rest
  read : ∀ fuel rest, 2 * (value.write .line).toList.length ≤ fuel →
    readValue? fuel (points (value.write .line).toList ++ rest) = some (value, rest)

theorem Legible.string (text : String) : Legible (.string text) where
  starts rest := by
    rw [write, toList_writeString]
    rfl
  read fuel rest enough := by
    rw [write, toList_writeString] at enough ⊢
    obtain ⟨fuel, rfl⟩ : ∃ fewer, fuel = fewer + 1 :=
      ⟨fuel - 1, by rw [List.length_cons] at enough; omega⟩
    rw [points_cons, points_append, List.cons_append, List.append_assoc, readValue?, points_cons,
      points_nil, List.singleton_append, readString?_written escapesControls_line]
    rfl

theorem toList_memberLine (member : String × Json) :
    (memberLine member).toList =
      '"' :: (member.1.toList.flatMap (writeChar .line) ++
        '"' :: ':' :: ' ' :: (member.2.write .line).toList) := by
  rw [memberLine, String.toList_append, String.toList_append, toList_writeString]
  simp

theorem points_memberLine (member : String × Json) (rest : List CodePoint) :
    points (memberLine member).toList ++ rest =
      .char '"' :: (points (member.1.toList.flatMap (writeChar .line)) ++
        .char '"' :: .char ':' :: .char ' ' :: (points (member.2.write .line).toList ++ rest)) := by
  rw [toList_memberLine]
  simp

theorem skipGaps_blank (text : List CodePoint) :
    skipGaps (.char ' ' :: text) = skipGaps text := rfl

theorem skipGaps_mark {mark : CodePoint} (noGap : isGap mark = false) (text : List CodePoint) :
    skipGaps (mark :: text) = mark :: text := by
  rw [skipGaps, List.dropWhile_cons_of_neg]
  simp [noGap]

section

variable {member : String × Json} {fuel : Nat} (legible : Legible member.2)
  (enough : 2 * (member.2.write .line).toList.length ≤ fuel)

include legible enough

/-- The last member is read when the bracket after it closes the object. -/
theorem readMembers?_last (rest : List CodePoint) :
    readMembers? (fuel + 1) (points (memberLine member).toList ++ .char '\x7d' :: rest) =
      some ([member], rest) := by
  rcases member with ⟨key, value⟩
  rw [points_memberLine, readMembers?, readString?_written escapesControls_line]
  simp only [Option.bind_eq_bind, Option.bind_some, @skipGaps_mark (.char ':') rfl, skipGaps_blank,
    legible.starts, legible.read fuel _ enough, @skipGaps_mark (.char '\x7d') rfl, Label.shown]

/-- A member is read before others when a comma comes after it. -/
theorem readMembers?_next {members : List (String × Json)} {text rest : List CodePoint}
    (others : readMembers? fuel (skipGaps text) = some (members, rest)) :
    readMembers? (fuel + 1) (points (memberLine member).toList ++ .char ',' :: text) =
      some (member :: members, rest) := by
  rcases member with ⟨key, value⟩
  rw [points_memberLine, readMembers?, readString?_written escapesControls_line]
  simp only [Option.bind_eq_bind, Option.bind_some, @skipGaps_mark (.char ':') rfl, skipGaps_blank,
    legible.starts, legible.read fuel _ enough, @skipGaps_mark (.char ',') rfl, others, Label.shown]

end

theorem length_value_lt (member : String × Json) :
    (member.2.write .line).toList.length < (memberLine member).toList.length := by
  rw [toList_memberLine, List.length_cons, List.length_append, List.length_cons, List.length_cons,
    List.length_cons]
  omega

theorem membersLine_singleton (member : String × Json) :
    membersLine [member] = (memberLine member).toList := by
  rw [membersLine, List.map_singleton, String.intercalate_singleton]

theorem membersLine_cons_cons (member next : String × Json) (members : List (String × Json)) :
    membersLine (member :: next :: members) =
      (memberLine member).toList ++ ',' :: ' ' :: membersLine (next :: members) := by
  rw [membersLine, String.toList_intercalate, List.map_cons, List.map_cons, List.map_cons,
    List.map_cons, List.intercalate_cons_cons, List.append_assoc, membersLine,
    String.toList_intercalate]
  rfl

theorem membersLine_starts (member : String × Json) (members : List (String × Json)) :
    ∃ rest, membersLine (member :: members) = '"' :: rest := by
  cases members with
  | nil => exact ⟨_, (membersLine_singleton member).trans (toList_memberLine member)⟩
  | cons next members =>
      rw [membersLine_cons_cons, toList_memberLine]
      exact ⟨_, rfl⟩

theorem skipGaps_membersLine (member : String × Json) (members : List (String × Json))
    (rest : List CodePoint) :
    skipGaps (points (membersLine (member :: members)) ++ rest) =
      points (membersLine (member :: members)) ++ rest := by
  rcases membersLine_starts member members with ⟨inside, text⟩
  rw [text]
  rfl

/-- All members are read, up to the closing bracket. -/
theorem readMembers?_line {member : String × Json} {members : List (String × Json)}
    (legible : ∀ one ∈ member :: members, Legible one.2) {fuel : Nat}
    (enough : 2 * (membersLine (member :: members)).length ≤ fuel) (rest : List CodePoint) :
    readMembers? fuel (points (membersLine (member :: members)) ++ .char '\x7d' :: rest) =
      some (member :: members, rest) := by
  induction members generalizing member fuel with
  | nil =>
      have longer := length_value_lt member
      rw [membersLine_singleton] at enough ⊢
      obtain ⟨fuel, rfl⟩ : ∃ fewer, fuel = fewer + 1 := ⟨fuel - 1, by omega⟩
      exact readMembers?_last (legible member List.mem_cons_self) (by omega) rest
  | cons next members induction =>
      have longer := length_value_lt member
      rw [membersLine_cons_cons] at enough ⊢
      rw [List.length_append, List.length_cons, List.length_cons] at enough
      obtain ⟨fuel, rfl⟩ : ∃ fewer, fuel = fewer + 1 := ⟨fuel - 1, by omega⟩
      have others := @induction next
        (fun one inside => legible one (List.mem_cons_of_mem _ inside)) fuel (by omega)
      rw [← skipGaps_membersLine] at others
      rw [points_append, List.append_assoc]
      exact readMembers?_next (legible member List.mem_cons_self) (by omega) others

theorem put_of_not_mem {members : Members} {key : String} (value : Json)
    (absent : key ∉ members.map Prod.fst) : members.put key value = members ++ [(key, value)] := by
  have missing : members.lookup key = none := by
    refine List.lookup_eq_none_iff.mpr fun member inside => bne_iff_ne.mpr ?_
    intro same
    exact absent (same ▸ List.mem_map_of_mem inside)
  rw [Members.put, Members.has, Members.find?, missing]
  rfl

/-- Members with different keys are kept as they were written. -/
theorem ofWritten_of_nodup {members : List (String × Json)}
    (different : (members.map Prod.fst).Nodup) : Members.ofWritten members = members := by
  have fold (before after : List (String × Json))
      (different : ((before ++ after).map Prod.fst).Nodup) :
      after.foldl (fun members member => Members.put members member.1 member.2) before =
        before ++ after := by
    induction after generalizing before with
    | nil => simp
    | cons member after induction =>
        have parts := different
        rw [List.map_append, List.map_cons, List.nodup_append] at parts
        have absent : member.1 ∉ before.map Prod.fst := fun inside =>
          parts.2.2 _ inside _ List.mem_cons_self rfl
        rw [List.append_cons] at different
        rw [List.foldl_cons, put_of_not_mem member.2 absent, induction _ different,
          List.append_cons before member after]
  exact fold [] members different

theorem Legible.object {members : List (String × Json)}
    (legible : ∀ member ∈ members, Legible member.2)
    (different : (members.map Prod.fst).Nodup) : Legible (.object members) where
  starts rest := by
    rw [toList_object]
    rfl
  read fuel rest enough := by
    rw [toList_object] at enough ⊢
    rw [List.length_cons, List.length_append, List.length_singleton] at enough
    obtain ⟨fuel, rfl⟩ : ∃ fewer, fuel = fewer + 1 := ⟨fuel - 1, by omega⟩
    rw [points_cons, points_append, List.cons_append, List.append_assoc, points_cons, points_nil,
      List.singleton_append, readValue?]
    cases members with
    | nil => rfl
    | cons member members =>
        have inside := readMembers?_line legible (show 2 * _ ≤ fuel by omega) rest
        have kept := ofWritten_of_nodup different
        rcases membersLine_starts member members with ⟨text, starts⟩
        rw [skipGaps_membersLine]
        rw [starts] at inside ⊢
        -- The first character is a quote, so it does not close the object.
        change Option.map _ (readMembers? fuel (points ('"' :: text) ++ .char '\x7d' :: rest)) = _
        rw [inside, Option.map_some]
        exact congrArg (fun members => some (Json.object members, rest)) kept

/-- A legible value is read back from its text. -/
theorem Legible.ofText?_write {value : Json} (legible : Legible value) :
    ofText? (value.write .line) = some value := by
  have starts := legible.starts []
  have read := legible.read (2 * (value.write .line).toList.length + 2) [] (by omega)
  rw [List.append_nil] at starts read
  rw [ofText?, ofPoints?, length_points, starts, read]
  rfl

end ObservatoryWatch.Json
