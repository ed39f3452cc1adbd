import Mathlib.Data.List.TakeWhile
import Hotplug.Predicate.Canonical
import Hotplug.Proofs.Predicate.Derivation

/-!
# What written pieces are read as

Each piece of canonical text is read as its own tokens in front of any text that
may follow it: the end, a blank or a closing bracket. A piece is never read on
beyond its end, since none of these continues a word or a number.
-/

namespace Hotplug

namespace Lexeme

/-- The characters are read as these tokens, wherever they stand. -/
def Reads (cs : List Char) (shape : List Token) : Prop :=
  ∀ offset, ∃ lexemes, ofChars offset cs = .ok lexemes ∧
    Predicate.tokens lexemes = shape

/-- In front of the rest, the characters are read as these tokens and leave the
rest to be read as if it stood alone. -/
def Spells (cs rest : List Char) (shape : List Token) : Prop :=
  ∀ whole, Reads (cs ++ rest) whole ↔ ∃ later, whole = shape ++
    later ∧ Reads rest later

/-- What may follow a written piece. -/
def Stops (rest : List Char) : Prop := ∀ c ∈ rest.head?, c = ' ' ∨ c = ']'

@[simp] theorem stops_nil : Stops [] := by simp [Stops]

@[simp] theorem stops_blank {rest : List Char} :
    Stops (' ' :: rest) := by simp [Stops]

@[simp] theorem stops_bracket {rest : List Char} :
    Stops (']' :: rest) := by simp [Stops]

section Scanning

variable {c : Char} {cs more rest : List Char} {token : Token}
  {shape later : List Token}

theorem ite_eq_ok_mono {ε α : Type} {condition : Prop} [Decidable condition]
    {first second first' second' : Except ε α} {answer : α}
    (whenTrue : first = .ok answer → first' = .ok answer)
    (whenFalse : second = .ok answer → second' = .ok answer) :
    (if condition then first else second) = .ok answer →
      (if condition then first' else second') = .ok answer := by
  split
  · exact whenTrue
  · exact whenFalse

/-- Offsets are for messages only. -/
theorem scan_offset {offset : Nat} {read : Token × Nat}
    (scanned : scan offset c rest = .ok read) (other : Nat) :
    scan other c rest = .ok read := by
  have operator {withEquals : Comparator} {alone : Option Comparator} :
      scanOperator offset c rest withEquals alone = .ok read →
        scanOperator other c rest withEquals alone = .ok read := by
    refine ite_eq_ok_mono id ?_
    cases alone with
    | none => exact nofun
    | some op => exact id
  have text : scanText offset c rest = .ok read →
      scanText other c rest = .ok read :=
    ite_eq_ok_mono id nofun
  have number : scanNumber offset c rest = .ok read →
      scanNumber other c rest = .ok read := by
    unfold scanNumber
    dsimp only
    split
    · exact id
    · exact nofun
  revert scanned
  refine ite_eq_ok_mono id <| ite_eq_ok_mono id <| ite_eq_ok_mono id <|
    ite_eq_ok_mono id <| ite_eq_ok_mono id <| ite_eq_ok_mono id <|
      ite_eq_ok_mono operator <| ite_eq_ok_mono operator <|
    ite_eq_ok_mono operator <| ite_eq_ok_mono operator <| ite_eq_ok_mono text <|
    ite_eq_ok_mono number <| ite_eq_ok_mono id nofun

/-- Blanks are skipped, and everything else starts a lexeme. -/
theorem ofChars_cons_eq_ok_iff (filled : Text.isBlank c = false) {offset : Nat}
    {lexemes : List Lexeme} :
    ofChars offset (c :: rest) = .ok lexemes ↔
      ∃ token further later, scan offset c rest = .ok (token, further) ∧
        ofChars (offset + byteCount (c :: rest.take further))
          (rest.drop further) = .ok later ∧
        lexemes = ⟨token, c :: rest.take further, offset⟩ :: later := by
  rw [ofChars, if_neg (by simp [filled])]
  constructor
  · intro lexed
    obtain ⟨⟨token, further⟩, scanned, lexed⟩ := exists_of_bind_eq_ok lexed
    obtain ⟨later, lexedLater, lexed⟩ := exists_of_bind_eq_ok lexed
    cases lexed
    exact ⟨token, further, later, scanned, lexedLater, rfl⟩
  · rintro ⟨token, further, later, scanned, lexedLater, rfl⟩
    simp only [scanned, ok_bind, lexedLater]
    rfl

theorem ofChars_blank (blank : Text.isBlank c = true) (offset : Nat) :
    ofChars offset (c :: rest) = ofChars (offset + c.utf8Size) rest := by
  rw [ofChars, if_pos blank]

/-- Characters that are read somewhere are read everywhere, and as the same
tokens. -/
theorem reads_of_ofChars {offset : Nat} {lexemes : List Lexeme}
    (lexed : ofChars offset cs = .ok lexemes) :
    Reads cs (Predicate.tokens lexemes) := by
  induction offset, cs using ofChars.induct generalizing lexemes with
  | case1 offset =>
      rw [ofChars] at lexed
      cases lexed
      exact fun other => ⟨[], by rw [ofChars], rfl⟩
  | case2 offset c rest blank induction =>
      rw [ofChars_blank blank] at lexed
      intro other
      rw [ofChars_blank blank]
      exact induction lexed _
  | case3 offset c rest filled induction =>
      obtain ⟨token, further, later, scanned, lexedLater, rfl⟩ :=
        (ofChars_cons_eq_ok_iff (by simpa using filled)).mp lexed
      intro other
      obtain ⟨others, read, same⟩ := induction further lexedLater
        (other + byteCount (c :: rest.take further))
      exact ⟨_, (ofChars_cons_eq_ok_iff (by simpa using filled)).mpr
        ⟨token, further, others, scan_offset scanned other, read, rfl⟩,
        by rw [Predicate.tokens_cons, Predicate.tokens_cons, same]⟩

theorem Reads.unique (reads : Reads cs shape) (also : Reads cs later) :
    shape = later := by
  obtain ⟨lexemes, lexed, rfl⟩ := reads 0
  obtain ⟨others, lexed', rfl⟩ := also 0
  rw [lexed] at lexed'
  cases lexed'
  rfl

theorem reads_nil : Reads [] [] := by
  intro offset
  exact ⟨[], by rw [ofChars], rfl⟩

theorem Spells.reads (spells : Spells cs rest shape)
    (reads : Reads rest later) : Reads (cs ++ rest) (shape ++ later) :=
  (spells _).mpr ⟨later, rfl, reads⟩

theorem spells_nil (rest : List Char) : Spells [] rest [] := fun _ =>
  ⟨fun reads => ⟨_, rfl, reads⟩, fun ⟨_, same, reads⟩ => same ▸ reads⟩

theorem Spells.append {ds : List Char} {further : List Token}
    (first : Spells cs (ds ++ rest) shape) (second : Spells ds rest further) :
    Spells (cs ++ ds) rest (shape ++ further) := by
  intro whole
  rw [List.append_assoc, first whole]
  constructor
  · rintro ⟨middle, rfl, readsBoth⟩
    obtain ⟨later, rfl, reads⟩ := (second middle).mp readsBoth
    exact ⟨later, (List.append_assoc _ _ _).symm, reads⟩
  · rintro ⟨later, rfl, reads⟩
    exact ⟨further ++ later, List.append_assoc _ _ _,
      (second _).mpr ⟨later, rfl, reads⟩⟩

theorem spells_blank : Spells [' '] rest [] := by
  intro whole
  have skipped : ∀ offset, ofChars offset (' ' :: rest) =
      ofChars (offset + ' '.utf8Size) rest :=
    fun offset => ofChars_blank (by decide) offset
  constructor
  · intro reads
    obtain ⟨lexemes, lexed, rfl⟩ := reads 0
    exact ⟨_, rfl, reads_of_ofChars ((skipped 0).symm.trans lexed)⟩
  · rintro ⟨later, rfl, reads⟩ offset
    obtain ⟨lexemes, lexed, isShape⟩ := reads (offset + ' '.utf8Size)
    exact ⟨lexemes, (skipped offset).trans lexed, isShape⟩

theorem spells_scanned (more : List Char) (filled : Text.isBlank c = false)
    (scanned : ∀ offset, scan offset c (more ++ rest) =
      .ok (token, more.length)) :
    Spells (c :: more) rest [token] := by
  intro whole
  rw [List.cons_append]
  constructor
  · intro reads
    obtain ⟨lexemes, lexed, rfl⟩ := reads 0
    obtain ⟨token', further, later, scanned', lexedLater, rfl⟩ :=
      (ofChars_cons_eq_ok_iff filled).mp lexed
    rw [scanned] at scanned'
    cases scanned'
    rw [List.drop_left] at lexedLater
    exact ⟨_, rfl, reads_of_ofChars lexedLater⟩
  · rintro ⟨later, rfl, reads⟩ offset
    obtain ⟨lexemes, lexed, rfl⟩ := reads (offset + byteCount (c :: more))
    refine ⟨_, (ofChars_cons_eq_ok_iff filled).mpr
      ⟨token, more.length, lexemes, scanned offset, ?_, rfl⟩, rfl⟩
    rw [List.take_left, List.drop_left, lexed]

end Scanning

section Words

variable {c : Char} {more rest : List Char}

/-- No character beyond ASCII is both a letter and a blank. -/
theorem apart_alphabetic_blank :
    ∀ letters ∈ Text.alphabeticRanges, ∀ blanks ∈ Text.blankRanges,
      letters.2 < blanks.1 ∨ blanks.2 < letters.1 := by
  decide +kernel

theorem blankRanges_holds (letter : Text.alphabeticRanges.holds c = true) :
    Text.blankRanges.holds c = false := by
  rw [Bool.eq_false_iff]
  intro blank
  simp only [Text.CodeRanges.holds, List.any_eq_true, Bool.and_eq_true,
    decide_eq_true_eq] at letter blank
  obtain ⟨letters, isLetters, fromLetters, toLetters⟩ := letter
  obtain ⟨blanks, isBlanks, fromBlanks, toBlanks⟩ := blank
  have apart := apart_alphabetic_blank letters isLetters blanks isBlanks
  omega

theorem le_toNat_of_isAlpha (letter : c.isAlpha = true) :
    65 ≤ c.toNat ∧ c.toNat < 128 := by
  have ranges : (decide (c.val ≥ 65 ∧ c.val ≤ 90) ||
      (c.val ≥ 97 && c.val ≤ 122)) = true :=
    letter
  have code : 65 ≤ c.toNat ∧ c.toNat ≤ 90 ∨ 97 ≤ c.toNat ∧ c.toNat ≤ 122 := by
    simpa [UInt32.le_iff_toNat_le] using ranges
  omega

/-- Words start with ASCII characters that come after all symbols but the square
brackets, and with others that are no blanks. -/
theorem code_of_isWordStart (start : isWordStart c = true) :
    65 ≤ c.toNat ∧ (c.toNat < 128 ∨ Text.blankRanges.holds c = false) := by
  simp only [isWordStart, Text.isAlphabetic, Bool.or_eq_true, Bool.and_eq_true,
    decide_eq_true_eq, beq_iff_eq] at start
  rcases start with (letter | ⟨beyond, letter⟩) | rfl
  · have code := le_toNat_of_isAlpha letter
    exact ⟨code.1, .inl code.2⟩
  · exact ⟨by omega, .inr (blankRanges_holds letter)⟩
  · decide

theorem ne_of_isWordStart (start : isWordStart c = true) {d : Char}
    (before : d.toNat < 65) :
    c ≠ d := by
  rintro rfl
  have code := code_of_isWordStart start
  omega

theorem isBlank_of_isWordStart (start : isWordStart c = true) :
    Text.isBlank c = false := by
  have code := code_of_isWordStart start
  have notControl : ¬c.toNat ≤ 13 := by omega
  have notSpace : (c == ' ') = false := by
    simpa using ne_of_isWordStart start (by decide : ' '.toNat < 65)
  rw [Text.isBlank, notSpace, decide_eq_false notControl,
    Bool.and_false, Bool.false_or, Bool.false_or]
  rcases code.2 with ascii | apart
  · rw [decide_eq_false (by omega), Bool.false_and]
  · rw [apart, Bool.and_false]

theorem isDigit_of_isWordStart (start : isWordStart c = true) :
    c.isDigit = false := by
  have code := code_of_isWordStart start
  rw [Bool.eq_false_iff]
  intro digit
  have range : c.toNat ≤ '9'.toNat := (Char.isDigit_iff_toNat.mp digit).2
  have nine : '9'.toNat = 57 := rfl
  omega

theorem scan_of_isWordStart (start : isWordStart c = true) (offset : Nat)
    (rest : List Char) :
    scan offset c rest =
      .ok (wordToken (c :: rest.takeWhile isWordPart),
        (rest.takeWhile isWordPart).length) := by
  have notOpening : c ≠ '[' := by
    rintro rfl
    revert start
    decide +kernel
  have notClosing : c ≠ ']' := by
    rintro rfl
    revert start
    decide +kernel
  have other {d : Char} (before : d.toNat < 65) : c ≠ d :=
    ne_of_isWordStart start before
  have notQuote : ¬(c = '\'' ∨ c = '"') := by
    simp [other (d := '\'') (by decide), other (d := '"') (by decide)]
  have notNumber : ¬(c.isDigit = true ∨ c = '-') := by
    simp [isDigit_of_isWordStart start, other (d := '-') (by decide)]
  unfold scan
  rw [if_neg (other (by decide)), if_neg (other (by decide)), if_neg notOpening,
    if_neg notClosing, if_neg (other (by decide)), if_neg (other (by decide)),
    if_neg (other (by decide)), if_neg (other (by decide)),
      if_neg (other (by decide)),
    if_neg (other (by decide)), if_neg notQuote, if_neg notNumber, if_pos start]

/-- A character that ends a word or has nothing to do with it. -/
def EndsWord (rest : List Char) : Prop := ∀ c ∈ rest.head?, isWordPart c = false

theorem Stops.endsWord (stops : Stops rest) : EndsWord rest := by
  intro c isHead
  rcases stops c isHead with rfl | rfl <;> decide +kernel

theorem takeWhile_isWordPart (parts : ∀ d ∈ more, isWordPart d = true)
    (ends : EndsWord rest) :
    (more ++ rest).takeWhile isWordPart = more := by
  rw [List.takeWhile_append_of_pos parts]
  cases rest with
  | nil => simp
  | cons d rest =>
      rw [List.takeWhile_cons_of_neg (by simp [ends d rfl]), List.append_nil]

theorem spells_word (start : isWordStart c = true)
    (parts : more.all isWordPart = true) (ends : EndsWord rest) :
    Spells (c :: more) rest [wordToken (c :: more)] := by
  refine spells_scanned _ (isBlank_of_isWordStart start) fun offset => ?_
  rw [scan_of_isWordStart start,
    takeWhile_isWordPart (List.all_eq_true.mp parts) ends]

end Words

section Names

variable {rest : List Char}

def keywords : List (List Char) :=
  ["AND", "OR", "IS", "TRUE", "FALSE"].map String.toList

/-- A word that is no keyword in any case. -/
structure IsName (name : String) : Prop where
  starts : name.toList.head?.any isWordStart = true
  continues : name.toList.tail.all isWordPart = true
  noKeyword : name.toList.map Char.toUpper ∉ keywords

instance (name : String) : Decidable (IsName name) :=
  decidable_of_iff (name.toList.head?.any isWordStart = true ∧
      name.toList.tail.all isWordPart = true ∧
        name.toList.map Char.toUpper ∉ keywords)
    ⟨fun ⟨starts, continues, noKeyword⟩ => ⟨starts, continues, noKeyword⟩,
      fun ⟨starts, continues, noKeyword⟩ => ⟨starts, continues, noKeyword⟩⟩

theorem wordToken_of_isName {name : String} (named : IsName name) :
    wordToken name.toList = .word name := by
  have other := named.noKeyword
  simp only [keywords, List.map_cons, List.map_nil, List.mem_cons,
    not_or] at other
  simp only [wordToken, other, if_false, String.ofList_toList]

theorem spells_named {name : String} (named : IsName name)
    (ends : EndsWord rest) :
    Spells name.toList rest [.word name] := by
  have starts := named.starts
  have continues := named.continues
  rw [← wordToken_of_isName named]
  cases spelled : name.toList with
  | nil => simp [spelled] at starts
  | cons first more =>
      rw [spelled] at starts continues
      exact spells_word starts continues ends

theorem isName_capability {capability : Capability}
    (known : capability ≠ .unknown) :
    IsName capability.name := by
  cases capability with
  | unknown => exact absurd rfl known
  | _ => decide +kernel

end Names

section Symbols

variable {rest : List Char}

theorem spells_opening : Spells ['['] rest [.opening .square] :=
  spells_scanned [] (by decide) fun _ => rfl

theorem spells_closing : Spells [']'] rest [.closing .square] :=
  spells_scanned [] (by decide) fun _ => rfl

theorem spells_dot : Spells ['.'] rest [.dot] :=
  spells_scanned [] (by decide) fun _ => rfl

theorem spells_operator (op : Comparator) :
    Spells op.symbol.toList (' ' :: rest) [.op op] := by
  cases op with
  | eq => exact spells_scanned ['='] (by decide) fun _ => rfl
  | ne => exact spells_scanned ['='] (by decide) fun _ => rfl
  | lt => exact spells_scanned [] (by decide) fun _ => rfl
  | le => exact spells_scanned ['='] (by decide) fun _ => rfl
  | gt => exact spells_scanned [] (by decide) fun _ => rfl
  | ge => exact spells_scanned ['='] (by decide) fun _ => rfl
  | mask => exact spells_scanned [] (by decide) fun _ => rfl

end Symbols

section Numbers

variable {c : Char} {digits body rest : List Char} {token : Token}

/-- A character that ends a number or has nothing to do with it. -/
def EndsNumber (rest : List Char) : Prop :=
  ∀ c ∈ rest.head?, c.isDigit = false ∧ c ≠ '.'

theorem Stops.endsNumber (stops : Stops rest) : EndsNumber rest := by
  intro c isHead
  rcases stops c isHead with rfl | rfl <;> decide

theorem numberLength_eq_zero (ends : EndsNumber rest) (dotSeen : Bool) :
    numberLength dotSeen rest = 0 := by
  cases rest with
  | nil => rfl
  | cons d rest =>
      obtain ⟨noDigit, noDot⟩ := ends d rfl
      rw [numberLength, if_neg (by simp [noDigit]), if_neg
        fun isDot => noDot isDot.1]

theorem numberLength_append (numeral : ∀ d ∈ digits, d.isDigit = true)
    (dotSeen : Bool) :
    numberLength dotSeen (digits ++ rest) = digits.length +
      numberLength dotSeen rest := by
  induction digits with
  | nil => simp
  | cons d digits induction =>
      rw [List.cons_append, numberLength, if_pos (numeral d (by simp)),
        induction fun e member => numeral e (by simp [member]),
          List.length_cons]
      omega

/-- A number without its sign: it starts with a digit and is taken as a
whole. -/
structure Numeral (body : List Char) : Prop where
  starts : body.head?.any Char.isDigit = true
  length : ∀ rest, EndsNumber rest → numberLength false (body ++ rest) =
    body.length

theorem numeral_digits (numeral : ∀ d ∈ digits, d.isDigit = true)
    (filled : digits ≠ []) :
    Numeral digits where
  starts := by
    cases digits with
    | nil => exact absurd rfl filled
    | cons d digits => simpa using numeral d (by simp)
  length rest ends := by
    rw [numberLength_append numeral, numberLength_eq_zero ends, Nat.add_zero]

theorem numeral_point {fraction : List Char}
    (whole : ∀ d ∈ digits, d.isDigit = true) (filled : digits ≠ [])
    (numeral : ∀ d ∈ fraction, d.isDigit = true) :
    Numeral (digits ++ '.' :: fraction) where
  starts := by
    have starts := (numeral_digits whole filled).starts
    cases digits with
    | nil => exact absurd rfl filled
    | cons d digits => exact starts
  length rest ends := by
    have point : numberLength false ('.' :: (fraction ++ rest)) =
        numberLength true (fraction ++ rest) + 1 := rfl
    rw [List.append_assoc, List.cons_append, numberLength_append whole, point,
      numberLength_append numeral, numberLength_eq_zero ends]
    simp

theorem numberToken?_digits (numeral : ∀ d ∈ digits, d.isDigit = true)
    (filled : digits ≠ []) (negative : Bool) :
    numberToken? negative digits = integerToken? negative
      (Text.Digits.read digits) := by
  have whole : digits.takeWhile (· != '.') = digits := by
    refine List.takeWhile_eq_self_iff.mpr fun d member => ?_
    have digit := numeral d member
    have noDot : d ≠ '.' := by
      rintro rfl
      cases digit
    simpa using noDot
  simp [numberToken?, whole, filled]

theorem read_toDigits (number : Nat) :
    Text.Digits.read (Nat.toDigits 10 number) = number := by
  rw [Text.Digits.read_eq_foldl]
  exact Nat.ofDigitChars_ten_toDigits

theorem isDigit_of_mem_toDigits (number : Nat) :
    ∀ d ∈ Nat.toDigits 10 number, d.isDigit = true :=
  fun _ member => Nat.isDigit_of_mem_toDigits (by decide) (by decide) member

theorem ne_of_isDigit (digit : c.isDigit = true) {d : Char}
    (other : d.isDigit = false) :
    c ≠ d := by
  rintro rfl
  simp [digit] at other

theorem scan_of_isDigit (digit : c.isDigit = true) (offset : Nat)
    (rest : List Char) :
    scan offset c rest = scanNumber offset c rest := by
  have other {d : Char} (otherwise : d.isDigit = false) : c ≠ d :=
    ne_of_isDigit digit otherwise
  have notQuote : ¬(c = '\'' ∨ c = '"') := by
    simp [other (d := '\'') rfl, other (d := '"') rfl]
  unfold scan
  rw [if_neg (other rfl), if_neg (other rfl), if_neg (other rfl),
    if_neg (other rfl),
    if_neg (other rfl), if_neg (other rfl), if_neg (other rfl),
      if_neg (other rfl),
    if_neg (other rfl), if_neg (other rfl), if_neg notQuote,
      if_pos (.inl digit)]

theorem isBlank_of_isDigit (digit : c.isDigit = true) :
    Text.isBlank c = false := by
  have code := Char.isDigit_iff_toNat.mp digit
  have zero : '0'.toNat = 48 := rfl
  have nine : '9'.toNat = 57 := rfl
  have notSpace : (c == ' ') = false := by simpa using ne_of_isDigit digit rfl
  rw [Text.isBlank, notSpace, decide_eq_false (by omega : ¬c.toNat ≤ 13),
    Bool.and_false, decide_eq_false (by omega : ¬128 ≤ c.toNat), Bool.false_and]
  rfl

def sign (negative : Bool) : List Char := if negative then ['-'] else []

theorem Numeral.scan (numeral : Numeral body) (ends : EndsNumber rest)
    (negative : Bool) :
    ∃ c more, sign negative ++ body = c :: more ∧ Text.isBlank c = false ∧
      ∀ offset, scan offset c (more ++ rest) =
        match numberToken? negative body with
        | some token => .ok (token, more.length)
        | none =>
            .error (.invalidNumber (String.ofList (c :: more)) offset) := by
  have length := numeral.length rest ends
  cases negative with
  | true =>
      refine ⟨'-', body, rfl, by decide, fun offset => ?_⟩
      change scanNumber offset '-' _ = _
      cases isToken : numberToken? true body <;>
        rw [scanNumber, length, List.take_left, if_pos rfl,
          beq_self_eq_true, isToken]
  | false =>
      have starts := numeral.starts
      cases body with
      | nil => cases starts
      | cons c digits =>
          have digit : c.isDigit = true := starts
          have notMinus := ne_of_isDigit digit (d := '-') rfl
          rw [List.cons_append, numberLength, if_pos digit,
            List.length_cons] at length
          refine ⟨c, digits, rfl, isBlank_of_isDigit digit, fun offset => ?_⟩
          cases isToken : numberToken? false (c :: digits) <;>
            rw [scan_of_isDigit digit, scanNumber, Nat.succ.inj length,
              List.take_left,
              if_neg notMinus, beq_false_of_ne notMinus, isToken]

theorem Numeral.spells (numeral : Numeral body) (ends : EndsNumber rest)
    {negative : Bool} (isToken : numberToken? negative body = some token) :
    Spells (sign negative ++ body) rest [token] := by
  obtain ⟨c, more, spelled, filled, scanned⟩ := numeral.scan ends negative
  rw [spelled]
  exact spells_scanned more filled fun offset => by rw [scanned, isToken]

theorem spells_natural {negative : Bool} {magnitude : Nat}
    (ends : EndsNumber rest)
    (isToken : integerToken? negative magnitude = some token) :
    Spells (sign negative ++ Nat.toDigits 10 magnitude) rest [token] := by
  have numeral := isDigit_of_mem_toDigits magnitude
  refine (numeral_digits numeral Nat.toDigits_ne_nil).spells ends ?_
  rw [numberToken?_digits numeral Nat.toDigits_ne_nil, read_toDigits, isToken]

theorem toList_toString (number : Nat) :
    (toString number).toList = Nat.toDigits 10 number := by
  rw [Nat.toString_eq_ofList_toDigits, String.toList_ofList]

theorem integerToken?_natural {number : Int64} {magnitude : Nat}
    (isNumber : number.toInt = magnitude) :
    integerToken? false magnitude = some (.int number) := by
  have bound := number.toInt_lt
  have fits : magnitude < Word.signedLimit := by
    rw [Word.signedLimit]
    omega
  have same : Int64.ofNat magnitude = number := by
    rw [← Int64.ofInt_toInt number, isNumber]
    rfl
  rw [integerToken?, if_neg Bool.false_ne_true, if_pos fits, same]

theorem integerToken?_negative {number : Int64} {magnitude : Nat}
    (isNumber : number.toInt = -magnitude) :
    integerToken? true magnitude = some (.int number) := by
  have bound := number.le_toInt
  have fits : magnitude ≤ Word.signedLimit := by
    rw [Word.signedLimit]
    omega
  rw [integerToken?, if_pos rfl, if_pos fits, ← isNumber, Int64.ofInt_toInt]

theorem integerToken?_unsigned {number : UInt64}
    (large : Word.signedLimit ≤ number.toNat) :
    integerToken? false number.toNat = some (.uint number) := by
  have fits : number.toNat < Word.unsignedLimit := number.toNat_lt
  rw [integerToken?, if_neg Bool.false_ne_true, if_neg (by omega), if_pos fits,
    UInt64.ofNat_toNat]

theorem spells_integer (ends : EndsNumber rest) (number : Int64) :
    Spells (toString number.toInt).toList rest [.int number] := by
  cases isNumber : number.toInt with
  | ofNat magnitude =>
      have spells := spells_natural ends (integerToken?_natural isNumber)
      change Spells (toString magnitude).toList rest _
      rw [toList_toString]
      exact spells
  | negSucc less =>
      have negated : number.toInt = -((less + 1 : Nat) : Int) := isNumber
      have spells := spells_natural ends (integerToken?_negative negated)
      change Spells ("-" ++ toString (less + 1)).toList rest _
      rw [String.toList_append, toList_toString]
      exact spells

end Numbers

section Texts

variable {rest : List Char}

/-- The first quote ends a text, whatever follows it. -/
theorem scanText_of_notMem {quote : Char} {content : List Char}
    (inside : quote ∉ content) (offset : Nat) (rest : List Char) :
    scanText offset quote (content ++ quote :: rest) =
      .ok (.text (String.ofList content), content.length + 1) := by
  have whole : (content ++ quote :: rest).takeWhile (· != quote) = content := by
    rw [List.takeWhile_append_of_pos, List.takeWhile_cons_of_neg (by simp),
      List.append_nil]
    rintro d member
    have other : d ≠ quote := by
      rintro rfl
      exact inside member
    simpa using other
  rw [scanText, whole]
  simp

theorem spells_quoted {quote : Char} {content : String}
    (isQuote : quote = '\'' ∨ quote = '"') (absent : quote ∉ content.toList) :
    Spells (quote :: (content.toList ++ [quote])) rest [.text content] := by
  refine spells_scanned _ (by rcases isQuote with rfl | rfl <;> decide)
    fun offset => ?_
  have isText : scan offset quote (content.toList ++ [quote] ++ rest) =
      scanText offset quote (content.toList ++ [quote] ++ rest) := by
    rcases isQuote with rfl | rfl <;> rfl
  rw [isText, List.append_assoc, List.singleton_append,
    scanText_of_notMem absent,
    String.ofList_toList, List.length_append, List.length_singleton]

end Texts

end Lexeme

end Hotplug
