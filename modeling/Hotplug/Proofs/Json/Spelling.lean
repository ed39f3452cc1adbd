import Mathlib.Data.List.TakeWhile
import Hotplug.Json.Writer
import Hotplug.Proofs.Json.Tokens

/-!
# What written JSON is cut into

The text of a tree is cut into the tree's own tokens, in front of anything that
cannot continue a number. This needs tokens that can be written: halves of
characters that are halves, and numbers in digits that do not start with a zero
which could be left out.
-/

namespace Hotplug

namespace Text.Hex

variable {n : Nat}

theorem digit?_digitChar :
    ∀ n < 16, digit? (Nat.digitChar n) = some n := by decide

/-- A number with one more digit, if it is one. -/
def push? (number : Nat) (c : Char) : Option Nat :=
  (digit? c).map (16 * number + ·)

theorem foldlM_push?_toDigits (n : Nat) :
    (Nat.toDigits 16 n).foldlM push? 0 = some n := by
  induction n using Nat.strongRecOn with
  | ind n induction =>
      rw [Nat.toDigits_eq_if (by decide)]
      split
      · next small => simp [push?, digit?_digitChar n small]
      · next large =>
          have last := digit?_digitChar (n % 16) (Nat.mod_lt _ (by decide))
          rw [List.foldlM_append, induction (n / 16) (by omega)]
          simp [push?, last, Nat.div_add_mod]

theorem read?_write (width n : Nat) : read? (write width n) = some n := by
  rw [write]
  generalize width - (Nat.toDigits 16 n).length = zeros
  induction zeros with
  | zero => exact foldlM_push?_toDigits n
  | succ zeros induction =>
      rw [← induction]
      rfl

theorem length_write_four (small : n < 0x10000) : (write 4 n).length = 4 := by
  have fits : (Nat.toDigits 16 n).length ≤ 4 :=
    (Nat.length_toDigits_le_iff (by decide) (by decide)).mpr small
  rw [write, List.length_append, List.length_replicate]
  omega

end Text.Hex

namespace TextUnit

/-- A unit that a text can hold: any character, and the code of a half. -/
def IsSound : TextUnit → Prop
  | char _ => True
  | half code => 0xD800 ≤ code ∧ code ≤ 0xDFFF

end TextUnit

namespace JsonNumber

/-- Digits that a number can have. -/
structure IsSound (number : JsonNumber) : Prop where
  whole : ∀ c ∈ number.whole, c.isDigit = true
  filled : number.whole ≠ []
  shortest : number.whole.head? = some '0' → number.whole = ['0']
  fraction : ∀ c ∈ number.fraction, c.isDigit = true
  exponent : ∀ below digits, number.exponent = some (below, digits) →
    digits ≠ [] ∧ ∀ c ∈ digits, c.isDigit = true

def writeFraction (fraction : List Char) : List Char :=
  if fraction.isEmpty then [] else '.' :: fraction

/-- The characters of a number without its sign. -/
def writeUnsigned (number : JsonNumber) : List Char :=
  number.whole ++ (writeFraction number.fraction ++
    writeExponent number.exponent)

theorem write_eq (number : JsonNumber) :
    number.write = (if number.negative then ['-'] else []) ++
      number.writeUnsigned := by
  simp only [write, writeUnsigned, writeFraction, List.append_assoc]

end JsonNumber

namespace JsonToken

/-- A token that can be written. -/
def IsSound : JsonToken → Prop
  | number digits => digits.IsSound
  | text units => ∀ unit ∈ units, unit.IsSound
  | _ => True

section Texts

variable {rest : List Char} {unit : TextUnit}

open TextUnit

/-- A unit is read from its characters, and takes all of them. -/
def SpellsUnit (cs : List Char) (unit : TextUnit) : Prop :=
  ∀ rest, textUnits? (cs ++ rest) =
    (textUnits? rest).map fun read => (unit :: read.1, read.2 + cs.length)

theorem spellsUnit_writeCode {code : Nat} (small : code < 0x10000)
    (isUnit : (if 0xD800 ≤ code ∧ code ≤ 0xDFFF then half code
      else char (Char.ofNat code)) = unit) :
    SpellsUnit (writeCode code) unit := by
  intro rest
  rw [writeCode]
  have isCode := Text.Hex.read?_write 4 code
  have four := Text.Hex.length_write_four small
  generalize Text.Hex.write 4 code = digits at isCode four
  match digits, four with
  | [a, b, c, d], _ =>
      simp only [List.cons_append, List.nil_append, textUnits?,
        codeUnit?, isCode]
      cases textUnits? rest with
      | none => rfl
      | some read => simp [isUnit]

theorem spellsUnit_short {c escaped : Char}
    (isShort : shortEscape? escaped = some c) (notCode : escaped ≠ 'u') :
    SpellsUnit ['\\', escaped] (char c) := by
  intro rest
  simp only [List.cons_append, List.nil_append]
  rw [textUnits?]
  · cases textUnits? rest with
    | none => simp [isShort]
    | some read => simp [isShort]
  · intro a b c d more same
    exact absurd same notCode

theorem spellsUnit_plain {c : Char} (notQuote : c ≠ '"') (notSlash : c ≠ '\\')
    (visible : 32 ≤ c.toNat) : SpellsUnit [c] (char c) := by
  intro rest
  rw [List.singleton_append, textUnits?]
  · rw [if_neg (by simp [notSlash]; omega)]
    cases textUnits? rest <;> rfl
  all_goals simp_all

theorem spellsUnit_writeChar (c : Char) :
    SpellsUnit (writeChar c) (char c) := by
  rw [writeChar]
  split_ifs with quote slash backspace feed line back tab control
  · obtain rfl := quote
    exact spellsUnit_short rfl (by decide)
  · obtain rfl := slash
    exact spellsUnit_short rfl (by decide)
  · exact backspace ▸ spellsUnit_short rfl (by decide)
  · exact feed ▸ spellsUnit_short rfl (by decide)
  · exact line ▸ spellsUnit_short rfl (by decide)
  · exact back ▸ spellsUnit_short rfl (by decide)
  · exact tab ▸ spellsUnit_short rfl (by decide)
  · refine spellsUnit_writeCode (by omega) ?_
    rw [if_neg (by omega), Char.ofNat_toNat]
  · exact spellsUnit_plain quote slash (by omega)

theorem spellsUnit_write (sound : unit.IsSound) :
    SpellsUnit unit.write unit := by
  cases unit with
  | char c => exact spellsUnit_writeChar c
  | half code =>
      exact spellsUnit_writeCode (by have := sound.2; omega) (if_pos sound)

theorem textUnits?_flatMap_write {units : List TextUnit}
    (sound : ∀ unit ∈ units, unit.IsSound) (rest : List Char) :
    textUnits? (units.flatMap write ++ '"' :: rest) =
      some (units, (units.flatMap write).length + 1) := by
  induction units with
  | nil => simp [textUnits?]
  | cons unit units induction =>
      obtain ⟨first, others⟩ := List.forall_mem_cons.mp sound
      rw [List.flatMap_cons, List.append_assoc, spellsUnit_write first,
        induction others, Option.map_some, List.length_append]
      simp only [Option.some.injEq, Prod.mk.injEq, true_and]
      omega

end Texts

section Numbers

open JsonNumber

variable {number : JsonNumber} {rest : List Char}

/-- What cannot continue a number. -/
def EndsNumber (rest : List Char) : Prop :=
  ∀ c ∈ rest.head?, c.isDigit = false ∧ c ≠ '.' ∧ c ≠ 'e' ∧ c ≠ 'E'

@[simp] theorem endsNumber_nil : EndsNumber [] := nofun

theorem takeWhile_isDigit {digits : List Char}
    (numeral : ∀ c ∈ digits, c.isDigit = true)
    (ends : ∀ c ∈ rest.head?, c.isDigit = false) :
    (digits ++ rest).takeWhile Char.isDigit = digits := by
  rw [List.takeWhile_append_of_pos numeral]
  cases rest with
  | nil => exact List.append_nil _
  | cons c rest =>
      rw [List.takeWhile_cons_of_neg (by simp [ends c rfl]), List.append_nil]

theorem exponentPart?_writeExponent (sound : number.IsSound)
    (ends : EndsNumber rest) :
    exponentPart? (writeExponent number.exponent ++ rest) =
      some (number.exponent, (writeExponent number.exponent).length) := by
  rcases written : number.exponent with _ | ⟨below, digits⟩
  · cases rest with
    | nil => rfl
    | cons c rest =>
        obtain ⟨-, -, small, capital⟩ := ends c rfl
        simp [writeExponent, exponentPart?, small, capital]
  · obtain ⟨filled, numeral⟩ := sound.exponent below digits written
    have taken := takeWhile_isDigit numeral fun c starts => (ends c starts).1
    have notEmpty : digits.isEmpty = false := by simpa using filled
    cases below with
    | true =>
        simp [writeExponent, exponentPart?, exponentSign,
          taken, notEmpty]; omega
    | false =>
        have unmarked : exponentSign (digits ++ rest) = (false, 0) := by
          obtain ⟨d, more, rfl⟩ := List.exists_cons_of_ne_nil filled
          have digit := numeral d List.mem_cons_self
          unfold exponentSign
          split <;> simp_all
        simp [writeExponent, exponentPart?, unmarked, taken, notEmpty]; omega

theorem head_writeExponent (ends : EndsNumber rest)
    (exponent : Option (Bool × List Char)) :
    ∀ c ∈ (writeExponent exponent ++ rest).head?, c.isDigit =
      false ∧ c ≠ '.' := by
  intro c starts
  rcases exponent with _ | ⟨below, digits⟩
  · exact ⟨(ends c starts).1, (ends c starts).2.1⟩
  · obtain rfl : 'e' = c := by simpa [writeExponent] using starts
    decide

theorem fractionDigits?_writeFraction {fraction : List Char}
    (numeral : ∀ c ∈ fraction, c.isDigit = true)
    (ends : ∀ c ∈ rest.head?, c.isDigit = false ∧ c ≠ '.') :
    fractionDigits? (writeFraction fraction ++ rest) = some fraction := by
  rw [writeFraction]
  split
  · next none =>
      obtain rfl := List.isEmpty_iff.mp none
      rw [List.nil_append]
      unfold fractionDigits?
      split
      · next rest => exact absurd rfl (ends '.' rfl).2
      · rfl
  · next filled =>
      have taken := takeWhile_isDigit numeral fun c starts => (ends c starts).1
      simp only [List.cons_append, fractionDigits?, taken]
      rw [if_neg filled]

theorem head_writeFraction (ends : ∀ c ∈ rest.head?, c.isDigit = false)
    (fraction : List Char) :
    ∀ c ∈ (writeFraction fraction ++ rest).head?, c.isDigit = false := by
  intro c starts
  rw [writeFraction] at starts
  split at starts
  · exact ends c starts
  · obtain rfl : '.' = c := by simpa using starts
    decide

/-- A zero in front is the whole of the digits before the point. -/
theorem wholeDigits_append (sound : number.IsSound)
    (ends : ∀ c ∈ rest.head?, c.isDigit = false) :
    wholeDigits (number.whole ++ rest) = number.whole := by
  have taken := takeWhile_isDigit sound.whole ends
  unfold wholeDigits
  split
  · next later starts =>
      obtain ⟨c, more, spelled⟩ := List.exists_cons_of_ne_nil sound.filled
      rw [spelled, List.cons_append] at starts
      obtain rfl := (List.cons.inj starts).1
      exact (sound.shortest (by rw [spelled]; rfl)).symm
  · exact taken

theorem unsignedNumber?_writeUnsigned (sound : number.IsSound)
    (ends : EndsNumber rest) :
    unsignedNumber? number.negative (number.writeUnsigned ++ rest) =
      some (number, number.writeUnsigned.length) := by
  have beforeExponent := head_writeExponent ends number.exponent
  have beforeFraction :=
    head_writeFraction (fun c starts => (beforeExponent c starts).1)
      number.fraction
  have whole := wholeDigits_append sound beforeFraction
  have fraction := fractionDigits?_writeFraction sound.fraction beforeExponent
  have exponent := exponentPart?_writeExponent sound ends
  have filled : number.whole.isEmpty = false := by simpa using sound.filled
  have length : (if number.fraction.isEmpty then 0
    else number.fraction.length + 1) =
      (writeFraction number.fraction).length := by
    rw [writeFraction]
    split <;> rfl
  simp only [writeUnsigned, List.append_assoc, unsignedNumber?, whole,
    filled, List.drop_left,
    fraction, exponent, length, Bool.false_eq_true, if_false,
      Option.bind_eq_bind,
    Option.bind_some, List.length_append, Option.pure_def, ← Nat.add_assoc]

end Numbers

/-- In front of the rest, the characters are cut into these tokens. -/
def Spells (cs rest : List Char) (tokens : List JsonToken) : Prop :=
  ofChars? (cs ++ rest) = (ofChars? rest).map (tokens ++ ·)

section Pieces

open JsonNumber

variable {c : Char} {cs ds rest : List Char} {token : JsonToken}
  {tokens later : List JsonToken}

theorem Spells.append (first : Spells cs (ds ++ rest) tokens)
    (second : Spells ds rest later) :
    Spells (cs ++ ds) rest (tokens ++ later) := by
  rw [Spells, List.append_assoc, first, second, Option.map_map]
  simp only [Function.comp_def, List.append_assoc]

theorem spells_scanned (more : List Char) (visible : isBlank c = false)
    (scanned : scan? c (more ++ rest) = some (token, more.length)) :
    Spells (c :: more) rest [token] := by
  rw [Spells, List.cons_append, ofChars?, if_neg (by simp [visible]), scanned]
  simp only [Option.bind_eq_bind, Option.bind_some, List.drop_left]
  cases ofChars? rest <;> rfl

theorem Spells.cons (first : Spells [c] (cs ++ rest) [token])
    (others : Spells cs rest tokens) :
    Spells (c :: cs) rest (token :: tokens) :=
  first.append others

theorem spells_openList (rest : List Char) : Spells ['['] rest [openList] :=
  spells_scanned [] (by decide) rfl

theorem spells_closeList (rest : List Char) : Spells [']'] rest [closeList] :=
  spells_scanned [] (by decide) rfl

theorem spells_openObject (rest : List Char) :
    Spells ['\x7b'] rest [openObject] :=
  spells_scanned [] (by decide) rfl

theorem spells_closeObject (rest : List Char) :
    Spells ['\x7d'] rest [closeObject] :=
  spells_scanned [] (by decide) rfl

theorem spells_comma (rest : List Char) : Spells [','] rest [comma] :=
  spells_scanned [] (by decide) rfl

theorem spells_colon (rest : List Char) : Spells [':'] rest [colon] :=
  spells_scanned [] (by decide) rfl

theorem spells_text {units : List TextUnit}
    (sound : ∀ unit ∈ units, unit.IsSound) (rest : List Char) :
    Spells (TextUnit.writeAll units) rest [text units] := by
  refine spells_scanned _ (by decide) ?_
  have read := textUnits?_flatMap_write sound rest
  simp [scan?, read]

theorem scan?_of_isDigit (digit : c.isDigit = true) (rest : List Char) :
    scan? c rest = (unsignedNumber? false (c :: rest)).map
      fun (digits, count) => (number digits, count - 1) := by
  have other (d : Char) (noDigit : d.isDigit = false) : c ≠ d := by
    rintro rfl
    simp [digit] at noDigit
  rw [scan?, if_neg (other _ rfl), if_neg (other _ rfl), if_neg (other _ rfl),
    if_neg (other _ rfl), if_neg (other _ rfl), if_neg (other _ rfl),
      if_neg (other _ rfl),
    if_neg (other _ rfl), if_neg (other _ rfl), if_neg (other _ rfl),
      if_neg (other _ rfl)]

theorem isBlank_of_isDigit (digit : c.isDigit = true) : isBlank c = false := by
  rw [Bool.eq_false_iff]
  intro blank
  simp only [isBlank, Bool.or_eq_true, beq_iff_eq] at blank
  rcases blank with ((rfl | rfl) | rfl) | rfl <;> cases digit

theorem spells_number {number : JsonNumber} (sound : number.IsSound)
    (ends : EndsNumber rest) :
    Spells number.write rest [.number number] := by
  have read := unsignedNumber?_writeUnsigned sound ends
  rw [number.write_eq]
  cases negative : number.negative with
  | true =>
      rw [negative] at read
      refine spells_scanned _ (by decide) ?_
      simp [scan?, read]
  | false =>
      rw [negative] at read
      obtain ⟨d, more, spelled⟩ := List.exists_cons_of_ne_nil sound.filled
      have digit : d.isDigit = true := sound.whole d (by simp [spelled])
      have starts : number.writeUnsigned =
          d :: (more ++ (writeFraction number.fraction ++
              writeExponent number.exponent)) := by
        rw [writeUnsigned, spelled, List.cons_append]
      rw [starts] at read ⊢
      refine spells_scanned _ (isBlank_of_isDigit digit) ?_
      rw [scan?_of_isDigit digit, ← List.cons_append, read]
      rfl

end Pieces

end JsonToken

end Hotplug
