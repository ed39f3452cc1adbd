import Hotplug.Proofs.Predicate.Scanning

/-!
# Lexemes part their text

The lexemes of a text are slices of it that come one after the other, with
nothing but blanks between them, and each of them is the same lexeme on its own.
A text that has no lexemes has some up to the first characters that are none:
they are to blame, and would be on their own. An integer is read with its exact
value, or not at all.
-/

namespace Hotplug

namespace Lexeme

section Bytes

theorem foldl_utf8Size (cs : List Char) (count : Nat) :
    cs.foldl (fun count c => count + c.utf8Size) count = count +
      byteCount cs := by
  induction cs generalizing count with
  | nil => rfl
  | cons c cs induction =>
      rw [byteCount, List.foldl_cons, List.foldl_cons, induction,
        induction, Nat.zero_add, Nat.add_assoc]

@[simp] theorem byteCount_nil : byteCount [] = 0 := rfl

@[simp] theorem byteCount_cons (c : Char) (cs : List Char) :
    byteCount (c :: cs) = c.utf8Size + byteCount cs := by
  rw [byteCount, List.foldl_cons, foldl_utf8Size, Nat.zero_add]

@[simp] theorem byteCount_append (cs more : List Char) :
    byteCount (cs ++ more) = byteCount cs + byteCount more := by
  change (cs ++ more).foldl _ 0 = _
  rw [List.foldl_append, foldl_utf8Size]
  rfl

theorem byteCount_pos {cs : List Char} (filled : cs ≠ []) :
    0 < byteCount cs := by
  cases cs with
  | nil => exact absurd rfl filled
  | cons c cs =>
      rw [byteCount_cons]
      exact Nat.add_pos_left c.utf8Size_pos _

theorem utf8ByteSize_ofList (cs : List Char) :
    (String.ofList cs).utf8ByteSize = byteCount cs := by
  induction cs with
  | nil => rfl
  | cons c cs induction =>
      rw [String.ofList_cons, String.utf8ByteSize_append,
        String.utf8ByteSize_singleton, induction, byteCount_cons]

/-- The spelling is a slice of the text that starts at the offset: both of its
ends are boundaries of characters, and the bytes between them are its own. -/
structure Occupies (text : String) (spelling : List Char) (offset : Nat) :
    Prop where
  filled : spelling ≠ []
  starts : String.Pos.Raw.IsValid text ⟨offset⟩
  stops : String.Pos.Raw.IsValid text ⟨offset + byteCount spelling⟩
  bytes : text.toByteArray.extract offset (offset + byteCount spelling) =
    (String.ofList spelling).toByteArray

theorem isValid_byteCount {text : String} {before after : List Char}
    (parts : text.toList = before ++ after) :
    String.Pos.Raw.IsValid text ⟨byteCount before⟩ := by
  refine String.Pos.Raw.isValid_iff_exists_append.mpr ⟨.ofList before,
    .ofList after, ?_, ?_⟩
  · rw [← String.ofList_append, ← parts, String.ofList_toList]
  · rw [String.rawEndPos, utf8ByteSize_ofList]

theorem occupies {text : String} {before spelling after : List Char}
    (parts : text.toList = before ++ (spelling ++ after))
    (filled : spelling ≠ []) :
    Occupies text spelling (byteCount before) where
  filled := filled
  starts := isValid_byteCount parts
  stops := by
    rw [← byteCount_append]
    exact isValid_byteCount (parts.trans (List.append_assoc _ _ _).symm)
  bytes := by
    have size (cs : List Char) : (String.ofList cs).toByteArray.size =
        byteCount cs := by
      rw [String.size_toByteArray, utf8ByteSize_ofList]
    have whole : text.toByteArray = ((String.ofList before).toByteArray ++
        (String.ofList spelling).toByteArray) ++
            (String.ofList after).toByteArray := by
      rw [← String.toByteArray_append, ← String.toByteArray_append,
        ← String.ofList_append,
        ← String.ofList_append, List.append_assoc, ← parts,
          String.ofList_toList]
    have upTo : text.toByteArray.extract 0
      (byteCount before + byteCount spelling) =
        (String.ofList before).toByteArray ++
            (String.ofList spelling).toByteArray := by
      rw [whole]
      exact ByteArray.extract_append_eq_left
        (by rw [ByteArray.size_append, size, size])
    calc
      text.toByteArray.extract (byteCount before)
            (byteCount before + byteCount spelling) =
          (text.toByteArray.extract 0
            (byteCount before + byteCount spelling)).extract
              (byteCount before) (byteCount before + byteCount spelling) := by
          rw [ByteArray.extract_extract, Nat.zero_add,
            Nat.zero_add, Nat.min_self]
      _ = (String.ofList spelling).toByteArray := by
          rw [upTo]
          exact ByteArray.extract_append_eq_right (size before).symm
            (by rw [size, size])

end Bytes

section Layout

variable {c : Char} {cs rest : List Char} {offset : Nat} {lexemes : List Lexeme}

/-- The lexemes lie in the characters from the offset on, and blanks around
them. Each of them is the same on its own. -/
inductive Laid : Nat → List Char → List Lexeme → Prop
  | nil (offset : Nat) : Laid offset [] []
  | blank {offset : Nat} {c : Char} {rest : List Char} {lexemes : List Lexeme}
      (isBlank : Text.isBlank c = true)
        (later : Laid (offset + c.utf8Size) rest lexemes) :
      Laid offset (c :: rest) lexemes
  | lexeme {lexeme : Lexeme} {rest : List Char} {lexemes : List Lexeme}
      (filled : lexeme.spelling ≠ [])
      (alone : ofChars 0 lexeme.spelling = .ok [{ lexeme with offset := 0 }])
      (later : Laid lexeme.stop rest lexemes) :
      Laid lexeme.offset (lexeme.spelling ++ rest) (lexeme :: lexemes)

theorem laid_of_ofChars (lexed : ofChars offset cs = .ok lexemes) :
    Laid offset cs lexemes := by
  induction offset, cs using ofChars.induct generalizing lexemes with
  | case1 offset =>
      rw [ofChars] at lexed
      cases lexed
      exact .nil offset
  | case2 offset c rest blank induction =>
      rw [ofChars_blank blank] at lexed
      exact .blank blank (induction lexed)
  | case3 offset c rest filled induction =>
      have filled : Text.isBlank c = false := by simpa using filled
      obtain ⟨token, further, later, scanned, lexedLater, rfl⟩ :=
        (ofChars_cons_eq_ok_iff filled).mp lexed
      have alone := ((local_scan c).takes scanned).2 0 further (Nat.le_refl _)
      have itself : ofChars 0 (c :: rest.take further) =
          .ok [⟨token, c :: rest.take further, 0⟩] := by
        refine (ofChars_cons_eq_ok_iff filled).mpr
          ⟨token, further, [], alone, ?_, ?_⟩
        · rw [List.drop_eq_nil_of_le (List.length_take_le _ _), ofChars]
        · rw [List.take_take, Nat.min_self]
      have laid := @Laid.lexeme ⟨token, c :: rest.take further, offset⟩ _ _
        (List.cons_ne_nil _ _) itself (induction further lexedLater)
      rwa [List.cons_append, List.take_append_drop] at laid

theorem Laid.slice (laid : Laid offset cs lexemes) {lexeme : Lexeme}
    (member : lexeme ∈ lexemes) :
    ∃ before after, cs = before ++ (lexeme.spelling ++ after) ∧
      lexeme.offset = offset + byteCount before := by
  induction laid with
  | nil => cases member
  | @blank offset c rest lexemes isBlank later induction =>
      obtain ⟨before, after, rfl, starts⟩ := induction member
      exact ⟨c :: before, after, rfl,
        by rw [starts, byteCount_cons, Nat.add_assoc]⟩
  | @lexeme first rest lexemes filled alone later induction =>
      rcases List.mem_cons.mp member with rfl | member
      · exact ⟨[], rest, rfl, rfl⟩
      · obtain ⟨before, after, rfl, starts⟩ := induction member
        refine ⟨first.spelling ++ before, after,
          (List.append_assoc _ _ _).symm, ?_⟩
        rw [starts, byteCount_append, stop, Nat.add_assoc]

theorem Laid.own (laid : Laid offset cs lexemes) {lexeme : Lexeme}
    (member : lexeme ∈ lexemes) :
    lexeme.spelling ≠ [] ∧ ofChars 0 lexeme.spelling =
      .ok [{ lexeme with offset := 0 }] := by
  induction laid with
  | nil => cases member
  | blank isBlank later induction => exact induction member
  | lexeme filled alone later induction =>
      rcases List.mem_cons.mp member with rfl | member
      · exact ⟨filled, alone⟩
      · exact induction member

theorem Laid.ordered (laid : Laid offset cs lexemes) :
    lexemes.Pairwise fun first second => first.stop ≤ second.offset := by
  induction laid with
  | nil => exact .nil
  | blank isBlank later induction => exact induction
  | lexeme filled alone later induction =>
      refine .cons (fun second member => ?_) induction
      obtain ⟨before, after, same, starts⟩ := later.slice member
      rw [starts]
      exact Nat.le_add_right _ _

theorem Laid.isBlank (laid : Laid offset cs lexemes) {before after : List Char}
    (parts : cs = before ++ c :: after)
    (uncovered : ∀ lexeme ∈ lexemes,
      ¬(lexeme.offset ≤ offset + byteCount before ∧ offset + byteCount before <
        lexeme.stop)) :
    Text.isBlank c = true := by
  induction laid generalizing before with
  | nil => simp at parts
  | @blank offset d rest lexemes isBlank later induction =>
      cases before with
      | nil =>
          cases parts
          exact isBlank
      | cons e before =>
          cases parts
          refine induction rfl ?_
          simpa only [byteCount_cons, Nat.add_assoc] using uncovered
  | @lexeme first rest lexemes filled alone later induction =>
      -- The character lies after the first lexeme, which would cover it
      -- otherwise.
      have beyond : first.stop ≤ first.offset + byteCount before := by
        have := uncovered first (List.mem_cons_self ..)
        omega
      rw [stop, Nat.add_le_add_iff_left] at beyond
      have further : ∃ middle, before = first.spelling ++ middle ∧
          rest = middle ++ c :: after := by
        rcases List.append_eq_append_iff.mp parts with ⟨middle, same,
          rfl⟩ | ⟨cut, same, tail⟩
        · exact ⟨middle, same, rfl⟩
        · cases cut with
          | nil => exact ⟨[], by simp [same], tail.symm⟩
          | cons d cut =>
              have := byteCount_pos (List.cons_ne_nil d cut)
              rw [same, byteCount_append] at beyond
              omega
      obtain ⟨middle, rfl, rfl⟩ := further
      refine induction rfl fun lexeme member => ?_
      have apart := uncovered lexeme (List.mem_cons_of_mem _ member)
      rwa [byteCount_append, ← Nat.add_assoc] at apart

theorem bind_eq_error_iff {ε α β : Type} {first : Except ε α}
    {next : α → Except ε β} {error : ε} :
    (first >>= next) = .error error ↔
      first = .error error ∨ ∃ answer, first = .ok answer ∧ next answer =
        .error error := by
  cases first <;> simp [bind, Except.bind]

theorem ofChars_cons_eq_error_iff (filled : Text.isBlank c = false)
    {error : PredicateError} :
    ofChars offset (c :: rest) = .error error ↔
      scan offset c rest = .error error ∨
      ∃ token further, scan offset c rest = .ok (token, further) ∧
        ofChars (offset + byteCount (c :: rest.take further))
          (rest.drop further) = .error error := by
  rw [ofChars, if_neg (by simp [filled])]
  simp only [bind_eq_error_iff, Prod.exists, pure, Except.pure,
    reduceCtorEq, and_false, exists_false, or_false]

/-- The characters up to the ones that are to blame have lexemes. -/
theorem exists_offends_of_ofChars {error : PredicateError}
    (failed : ofChars offset cs = .error error) :
    ∃ before spelling after lexemes reason, cs = before ++ (spelling ++ after) ∧
      Offends spelling after reason ∧ error =
        reason (offset + byteCount before) ∧
      ofChars offset before = .ok lexemes ∧ ofChars 0 spelling =
        .error (reason 0) := by
  induction offset, cs using ofChars.induct with
  | case1 offset =>
      rw [ofChars] at failed
      cases failed
  | case2 offset c rest blank induction =>
      rw [ofChars_blank blank] at failed
      obtain ⟨before, spelling, after, lexemes, reason, rfl, offends,
          rfl, lexed, alone⟩ :=
        induction failed
      refine ⟨c :: before, spelling, after, lexemes, reason, rfl,
        offends, ?_, ?_, alone⟩
      · rw [byteCount_cons, Nat.add_assoc]
      · rwa [ofChars_blank blank]
  | case3 offset c rest filled induction =>
      have filled : Text.isBlank c = false := by simpa using filled
      rcases (ofChars_cons_eq_error_iff filled).mp failed with
        scanned | ⟨token, further, scanned, later⟩
      · obtain ⟨count, reason, same, offends, alone⟩ :=
          (local_scan c).refuses scanned
        refine ⟨[], c :: rest.take count, rest.drop count, [], reason,
          ?_, offends, same,
          by rw [ofChars], (ofChars_cons_eq_error_iff
            filled).mpr (.inl (alone 0))⟩
        rw [List.nil_append, List.cons_append, List.take_append_drop]
      · obtain ⟨before, spelling, after, lexemes, reason, parts, offends,
            rfl, lexed, alone⟩ :=
          induction further later
        obtain ⟨short, takes⟩ := (local_scan c).takes scanned
        -- What is cut off with the blamed characters comes after the first
        -- lexeme.
        have cut : rest.take (further + before.length) = rest.take further ++
            before := by
          rw [List.take_add, parts, List.take_left]
        have length : (rest.take further).length = further :=
          List.length_take_of_le short
        refine ⟨c :: (rest.take further ++ before), spelling, after, _,
          reason, ?_, offends, ?_,
          (ofChars_cons_eq_ok_iff filled).mpr ⟨token, further, lexemes,
            ?_, ?_, rfl⟩, alone⟩
        · rw [List.cons_append, List.append_assoc, ← parts,
            List.take_append_drop]
        · rw [← List.cons_append, byteCount_append, Nat.add_assoc]
        · rw [← cut]
          exact takes offset _ (Nat.le_add_right _ _)
        · rw [List.take_left' length, List.drop_left' length, lexed]

end Layout

section Integers

variable {digits spelling : List Char} {value : Int}

/-- What digits say, on their own or after a minus. -/
inductive Denotes : List Char → Int → Prop
  | natural {digits : List Char} (filled : digits ≠ [])
      (numeral : ∀ d ∈ digits, d.isDigit = true) :
        Denotes digits (Nat.ofDigitChars 10 digits 0)
  | negated {digits : List Char} (filled : digits ≠ [])
      (numeral : ∀ d ∈ digits, d.isDigit = true) :
      Denotes ('-' :: digits) (-(Nat.ofDigitChars 10 digits 0 : Int))

/-- The token is the integer, and unsigned only if it has to be. -/
inductive IsExactly : Token → Int → Prop
  | int (number : Int64) : IsExactly (.int number) number.toInt
  | uint (number : UInt64) (large : Word.signedLimit ≤ number.toNat) :
      IsExactly (.uint number) number.toNat

/-- The spelling is read as the integer, as a signed one if possible. -/
structure ReadsInteger (spelling : List Char) (value : Int) : Prop where
  signed : ∀ number : Int64, number.toInt = value →
    ofText (String.ofList spelling) = .ok [⟨.int number, spelling, 0⟩]
  unsigned : ∀ number : UInt64, number.toNat = value →
    Word.signedLimit ≤ value →
    ofText (String.ofList spelling) = .ok [⟨.uint number, spelling, 0⟩]
  neither : value < -Word.signedLimit ∨ Word.unsignedLimit ≤ value →
    ofText (String.ofList spelling) =
      .error (.invalidNumber (String.ofList spelling) 0)

theorem ofText_digits (filled : digits ≠ [])
    (numeral : ∀ d ∈ digits, d.isDigit = true) (negative : Bool) :
    ofText (String.ofList (sign negative ++ digits)) =
      match integerToken? negative (Nat.ofDigitChars 10 digits 0) with
      | some token => .ok [⟨token, sign negative ++ digits, 0⟩]
      | none =>
          .error (.invalidNumber (String.ofList (sign negative ++ digits))
              0) := by
  have value : Text.Digits.read digits = Nat.ofDigitChars 10 digits 0 :=
    Text.Digits.read_eq_foldl digits
  have ends : EndsNumber [] := nofun
  obtain ⟨c, more, spelled, notBlank, scanned⟩ :=
    (numeral_digits numeral filled).scan ends negative
  rw [List.append_nil, numberToken?_digits numeral filled, value] at scanned
  rw [ofText, String.toList_ofList, spelled, ofChars,
    if_neg (by simp [notBlank]), scanned]
  cases integerToken? negative (Nat.ofDigitChars 10 digits 0) with
  | none => rfl
  | some token => simp [ok_bind, ofChars, pure, Except.pure]

theorem integerToken?_above {magnitude : Nat}
    (above : Word.unsignedLimit ≤ magnitude) :
    integerToken? false magnitude = none := by
  have unsigned : ¬magnitude < Word.unsignedLimit := Nat.not_lt.mpr above
  have signed : ¬magnitude < Word.signedLimit := fun less =>
    unsigned (Nat.lt_trans less (by decide))
  rw [integerToken?, if_neg Bool.false_ne_true, if_neg signed, if_neg unsigned]

theorem integerToken?_below {magnitude : Nat}
    (below : Word.signedLimit < magnitude) :
    integerToken? true magnitude = none := by
  rw [integerToken?, if_pos rfl, if_neg (Nat.not_le.mpr below)]

theorem Denotes.reads (denotes : Denotes spelling value) :
    ReadsInteger spelling value := by
  cases denotes with
  | @natural _ filled numeral =>
      have read := ofText_digits filled numeral false
      refine ⟨fun number same => ?_, fun number same large => ?_,
        fun beyond => ?_⟩
      · rwa [integerToken?_natural same] at read
      · have exact : number.toNat = Nat.ofDigitChars 10 spelling 0 := by
          exact_mod_cast same
        rwa [← exact, integerToken?_unsigned (by omega)] at read
      · rwa [integerToken?_above (by omega)] at read
  | @negated digits filled numeral =>
      have read := ofText_digits filled numeral true
      have positive : 0 < Word.signedLimit ∧ 0 < Word.unsignedLimit := by decide
      refine ⟨fun number same => ?_, fun number same large => ?_,
        fun beyond => ?_⟩
      · rwa [integerToken?_negative same] at read
      · omega
      · rwa [integerToken?_below (by omega)] at read

/-- An integer is that of a signed number, or of an unsigned one, or of none. -/
theorem exists_number_or_beyond (value : Int) :
    (∃ number : Int64, number.toInt = value) ∨
      (∃ number : UInt64, number.toNat = value ∧ Word.signedLimit ≤ value) ∨
        (value < -Word.signedLimit ∨ Word.unsignedLimit ≤ value) := by
  have half : Word.signedLimit = 0x8000000000000000 := rfl
  have whole : Word.unsignedLimit = 0x10000000000000000 := rfl
  by_cases signed : -Word.signedLimit ≤ value ∧ value < Word.signedLimit
  · exact .inl ⟨.ofInt value, Int64.toInt_ofInt_of_le (by omega) (by omega)⟩
  by_cases unsigned : Word.signedLimit ≤ value ∧ value < Word.unsignedLimit
  · refine .inr (.inl ⟨.ofNat value.toNat, ?_, unsigned.1⟩)
    rw [UInt64.toNat_ofNat_of_lt' (by simp only [UInt64.size]; omega)]
    omega
  · omega

theorem Denotes.isExactly (denotes : Denotes spelling value) {token : Token}
    (alone : ofText (String.ofList spelling) = .ok [⟨token, spelling, 0⟩]) :
    IsExactly token value := by
  rcases exists_number_or_beyond value with ⟨number, same⟩ | ⟨number,
    same, large⟩ | beyond
  · rw [denotes.reads.signed number same] at alone
    cases alone
    exact same ▸ .int number
  · rw [denotes.reads.unsigned number same large] at alone
    cases alone
    exact same ▸ .uint number (by omega)
  · rw [denotes.reads.neither beyond] at alone
    cases alone

/-- Digits are refused only if no number is large enough. -/
theorem Denotes.beyond (denotes : Denotes spelling value)
    {error : PredicateError}
    (alone : ofText (String.ofList spelling) = .error error) :
    value < -Word.signedLimit ∨ Word.unsignedLimit ≤ value := by
  rcases exists_number_or_beyond value with ⟨number, same⟩ | ⟨number,
    same, large⟩ | beyond
  · rw [denotes.reads.signed number same] at alone
    cases alone
  · rw [denotes.reads.unsigned number same large] at alone
    cases alone
  · exact beyond

end Integers

section Texts

variable {text : String}

/-- The lexemes part the text. -/
structure Partitions (text : String) (lexemes : List Lexeme) : Prop where
  occupies : ∀ lexeme ∈ lexemes, Occupies text lexeme.spelling lexeme.offset
  ordered : lexemes.Pairwise fun first second => first.stop ≤ second.offset
  blanks : ∀ before c after, text.toList = before ++ c :: after →
    (∀ lexeme ∈ lexemes, ¬(lexeme.offset ≤ byteCount before ∧
      byteCount before < lexeme.stop)) → Text.isBlank c = true
  alone : ∀ lexeme ∈ lexemes,
    ofText (String.ofList lexeme.spelling) = .ok [{ lexeme with offset := 0 }]
  integers : ∀ lexeme ∈ lexemes, ∀ value, Denotes lexeme.spelling value →
    IsExactly lexeme.token value

/-- The error names the first of the characters that are to blame, before which
there is nothing but lexemes and blanks. -/
structure Blames (text : String) (error : PredicateError)
    (before spelling after : List Char) (reason : Nat → PredicateError) :
    Prop where
  parts : text.toList = before ++ (spelling ++ after)
  occupies : Occupies text spelling (byteCount before)
  offends : Offends spelling after reason
  named : error = reason (byteCount before)
  before : ∃ lexemes, ofText (String.ofList before) = .ok lexemes
  alone : ofText (String.ofList spelling) = .error (reason 0)
  integers : ∀ value, Denotes spelling value →
    value < -Word.signedLimit ∨ Word.unsignedLimit ≤ value

/-- What becomes of the text accounts for all of it. -/
def Accounts (text : String) : Except PredicateError (List Lexeme) → Prop
  | .ok lexemes => Partitions text lexemes
  | .error error => ∃ before spelling after reason,
      Blames text error before spelling after reason

theorem partitions_of_ofText {lexemes : List Lexeme}
    (lexed : ofText text = .ok lexemes) :
    Partitions text lexemes := by
  have laid := laid_of_ofChars lexed
  have alone : ∀ lexeme ∈ lexemes,
      ofText (String.ofList lexeme.spelling) =
          .ok [{ lexeme with offset := 0 }] := by
    intro lexeme member
    rw [ofText, String.toList_ofList]
    exact (laid.own member).2
  refine ⟨fun lexeme member => ?_, laid.ordered, ?_, alone, ?_⟩
  · obtain ⟨before, after, parts, starts⟩ := laid.slice member
    rw [starts, Nat.zero_add]
    exact Lexeme.occupies parts (laid.own member).1
  · intro before c after parts uncovered
    refine laid.isBlank parts ?_
    rwa [Nat.zero_add]
  · intro lexeme member value denotes
    exact denotes.isExactly (alone lexeme member)

theorem exists_blames_of_ofText {error : PredicateError}
    (failed : ofText text = .error error) :
    ∃ before spelling after reason,
      Blames text error before spelling after reason := by
  obtain ⟨before, spelling, after, lexemes, reason, parts, offends,
      named, lexed, alone⟩ :=
    exists_offends_of_ofChars failed
  rw [Nat.zero_add] at named
  have refused : ofText (String.ofList spelling) = .error (reason 0) := by
    rwa [ofText, String.toList_ofList]
  have filled : spelling ≠ [] := by
    cases offends <;> exact List.cons_ne_nil _ _
  refine ⟨before, spelling, after, reason, parts, occupies parts filled,
    offends, named,
    ⟨lexemes, ?_⟩, refused, fun value denotes => denotes.beyond refused⟩
  rwa [ofText, String.toList_ofList]

/-- Lexemes part their text, or characters that cannot be one are the first to
be blamed; and digits, with a minus or without, are read as the integer they
are. -/
theorem ofText_accounts (text : String) :
    Accounts text (ofText text) ∧
      ∀ spelling value, Denotes spelling value →
        ReadsInteger spelling value := by
  refine ⟨?_, fun spelling value denotes => denotes.reads⟩
  cases lexed : ofText text with
  | ok lexemes => exact partitions_of_ofText lexed
  | error error => exact exists_blames_of_ofText lexed

/-- A minus belongs to its digits. -/
theorem ofText_accounts_negative :
    ofText (String.ofList ['-', '1', '2']) =
      .ok [⟨.int (-12), ['-', '1', '2'], 0⟩] :=
  ((ofText_accounts "-12").2 _ _ (.negated (by simp) (by simp))).signed (-12)
    (by decide)

end Texts

end Lexeme

end Hotplug
