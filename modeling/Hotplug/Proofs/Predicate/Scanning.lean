import Mathlib.Data.List.TakeWhile
import Hotplug.Proofs.Predicate.Spelling

/-!
# What one lexeme depends on

A token is read from its own characters alone: those that come after them may be
cut off anywhere, or altogether. The same holds where no token can be read. Then
the characters that are to blame are refused in the same way wherever they
stand.
-/

namespace Hotplug

namespace Lexeme

/-- Reads the token that starts with some character, from the characters after
it. -/
abbrev Scanner : Type := Nat → List Char → Except PredicateError (Token × Nat)

/-- Characters that are no lexeme in front of those that follow, and what is
said of them where they stand. -/
inductive Offends : List Char → List Char → (Nat → PredicateError) → Prop
  | stray (c : Char) (after : List Char) : Offends [c] after (.unexpectedChar c)
  | unended {quote : Char} {content : List Char}
    (isQuote : quote = '\'' ∨ quote = '"')
      (never : quote ∉ content) : Offends (quote :: content)
        [] .unterminatedText
  | unreadable {c : Char} {digits after : List Char}
    (isNumber : c.isDigit = true ∨ c = '-')
      (whole : numberLength false (digits ++ after) = digits.length) :
      Offends (c :: digits) after (.invalidNumber (String.ofList (c :: digits)))

/-- Whatever the scanner says after the character, it says of a lexeme that
starts there and without regard to what follows the lexeme. -/
structure Local (c : Char) (scanner : Scanner) : Prop where
  takes : ∀ {offset rest token further}, scanner offset rest =
    .ok (token, further) →
    further ≤ rest.length ∧ ∀ other count, further ≤ count →
      scanner other (rest.take count) = .ok (token, further)
  refuses : ∀ {offset rest error}, scanner offset rest = .error error →
    ∃ count reason, error = reason offset ∧
      Offends (c :: rest.take count) (rest.drop count) reason ∧
      ∀ other, scanner other (rest.take count) = .error (reason other)

section Scanners

variable {c : Char} {rest : List Char}

theorem Local.ite {condition : Prop} [Decidable condition]
    {first second : Scanner} (whenTrue : condition → Local c first)
    (whenFalse : ¬condition → Local c second) :
    Local c fun offset rest => if condition then first offset rest
      else second offset rest := by
  by_cases holds : condition
  · simpa only [if_pos holds] using whenTrue holds
  · simpa only [if_neg holds] using whenFalse holds

theorem local_symbol (token : Token) : Local c fun _ _ => .ok (token, 0) where
  takes scanned := by
    cases scanned
    exact ⟨Nat.zero_le _, fun _ _ _ => rfl⟩
  refuses := nofun

theorem local_stray :
    Local c fun offset _ => .error (.unexpectedChar c offset) where
  takes := nofun
  refuses refused := by
    cases refused
    exact ⟨0, _, rfl, .stray c _, fun _ => rfl⟩

theorem head?_take_of_pos {count : Nat} (some : 1 ≤ count) :
    (rest.take count).head? = rest.head? := by
  rw [List.head?_take, if_neg (by omega)]

theorem local_operator (withEquals : Comparator) (alone : Option Comparator) :
    Local c fun offset rest => scanOperator offset c rest withEquals alone where
  takes {_ rest _ _} scanned := by
    unfold scanOperator at scanned
    split at scanned
    · next equals =>
        cases scanned
        refine ⟨List.length_pos_iff.mpr
          fun none => by simp [none] at equals, ?_⟩
        intro other count positive
        exact if_pos ((head?_take_of_pos positive).trans equals)
    · next different =>
        cases alone with
        | none => cases scanned
        | some op =>
            cases scanned
            refine ⟨Nat.zero_le _, fun other count _ => ?_⟩
            have still : (rest.take count).head? ≠ some '=' := by
              rw [List.head?_take]
              split
              · simp
              · exact different
            exact if_neg still
  refuses refused := by
    unfold scanOperator at refused
    split at refused
    · cases refused
    · cases alone with
      | some op => cases refused
      | none =>
          cases refused
          exact ⟨0, _, rfl, .stray c _, fun _ => rfl⟩

theorem local_text (isQuote : c = '\'' ∨ c = '"') :
    Local c fun offset rest => scanText offset c rest where
  takes {_ rest _ _} scanned := by
    by_cases ended : c ∈ rest
    · obtain ⟨content, after, rfl, inside⟩ := List.eq_append_cons_of_mem ended
      rw [scanText_of_notMem inside] at scanned
      cases scanned
      refine ⟨by simp, fun other count positive => ?_⟩
      obtain ⟨more, rfl⟩ := Nat.exists_eq_add_of_le positive
      rw [Nat.add_assoc, Nat.add_comm 1, List.take_length_add_append,
        List.take_succ_cons]
      exact scanText_of_notMem inside other _
    · simp [scanText, ended] at scanned
  refuses {_ rest _} refused := by
    have never : c ∉ rest := by
      intro ended
      simp [scanText, ended] at refused
    have ends : ∀ other, scanText other c rest =
        .error (.unterminatedText other) := by
      intro other
      simp [scanText, never]
    rw [ends] at refused
    cases refused
    refine ⟨rest.length, _, rfl, ?_, ?_⟩
    · rw [List.take_length, List.drop_length]
      exact .unended isQuote never
    · rw [List.take_length]
      exact ends

theorem numberLength_le (dotSeen : Bool) :
    numberLength dotSeen rest ≤ rest.length := by
  induction rest generalizing dotSeen with
  | nil => exact Nat.le_refl 0
  | cons d rest induction =>
      rw [numberLength]
      split
      · exact Nat.succ_le_succ (induction dotSeen)
      · split
        · exact Nat.succ_le_succ (induction true)
        · exact Nat.zero_le _

theorem numberLength_take {dotSeen : Bool} {count : Nat}
    (enough : numberLength dotSeen rest ≤ count) :
    numberLength dotSeen (rest.take count) = numberLength dotSeen rest := by
  induction rest generalizing dotSeen count with
  | nil => rw [List.take_nil]
  | cons d rest induction =>
      cases count with
      | zero => rw [Nat.le_zero.mp enough, List.take_zero, numberLength]
      | succ count =>
          rw [List.take_succ_cons]
          simp only [numberLength] at enough ⊢
          split at enough
          · next digit =>
              rw [if_pos digit, if_pos digit,
                induction (Nat.le_of_succ_le_succ enough)]
          · next noDigit =>
              rw [if_neg noDigit, if_neg noDigit]
              split at enough
              · next dot =>
                  rw [if_pos dot, if_pos dot,
                    induction (Nat.le_of_succ_le_succ enough)]
              · next noDot => rw [if_neg noDot, if_neg noDot]

/-- A number is what its own characters say. -/
theorem scanNumber_take {count : Nat} (enough : numberLength false rest ≤ count)
    (offset : Nat) :
    scanNumber offset c (rest.take count) = scanNumber offset c rest := by
  rw [scanNumber, scanNumber, numberLength_take enough, List.take_take,
    Nat.min_eq_left enough]

theorem scanNumber_cases (c : Char) (rest : List Char) :
    (∃ token, ∀ offset, scanNumber offset c rest =
      .ok (token, numberLength false rest)) ∨
      ∀ offset, scanNumber offset c rest = .error (.invalidNumber
        (String.ofList (c :: rest.take (numberLength false rest))) offset) := by
  cases isToken : numberToken? (c == '-')
    (if c = '-' then rest.take (numberLength false rest)
      else c :: rest.take (numberLength false rest)) with
  | none => exact .inr fun offset => by rw [scanNumber, isToken]
  | some token => exact .inl ⟨token, fun offset => by rw [scanNumber, isToken]⟩

theorem local_number (isNumber : c.isDigit = true ∨ c = '-') :
    Local c fun offset rest => scanNumber offset c rest where
  takes {_ rest _ _} scanned := by
    rcases scanNumber_cases c rest with ⟨number, everywhere⟩ | nowhere
    · rw [everywhere] at scanned
      cases scanned
      refine ⟨numberLength_le false, fun other count enough => ?_⟩
      exact (scanNumber_take enough other).trans (everywhere other)
    · rw [nowhere] at scanned
      cases scanned
  refuses {_ rest _} refused := by
    rcases scanNumber_cases c rest with ⟨number, everywhere⟩ | nowhere
    · rw [everywhere] at refused
      cases refused
    · rw [nowhere] at refused
      cases refused
      refine ⟨numberLength false rest, _, rfl, .unreadable isNumber ?_,
        fun other => ?_⟩
      · rw [List.take_append_drop, List.length_take,
          Nat.min_eq_left (numberLength_le false)]
      · exact (scanNumber_take (Nat.le_refl _) other).trans (nowhere other)

theorem local_word (word : List Char → Token) :
    Local c fun _ rest =>
      let part := rest.takeWhile isWordPart
      .ok (word (c :: part), part.length) where
  takes {_ rest _ _} scanned := by
    cases scanned
    refine ⟨(List.takeWhile_prefix _).length_le, fun other count enough => ?_⟩
    rw [← List.take_takeWhile, List.take_of_length_le enough]
  refuses := nofun

theorem local_scan (c : Char) : Local c fun offset rest => scan offset c rest :=
  .ite (fun _ => local_symbol _) fun _ => .ite (fun _ => local_symbol _)
      fun _ =>
  .ite (fun _ => local_symbol _) fun _ => .ite (fun _ => local_symbol _)
      fun _ =>
  .ite (fun _ => local_symbol _) fun _ => .ite (fun _ => local_symbol _)
      fun _ =>
  .ite (fun _ => local_operator _ _) fun _ => .ite (fun _ => local_operator _ _)
      fun _ =>
  .ite (fun _ => local_operator _ _) fun _ => .ite (fun _ => local_operator _ _)
      fun _ =>
  .ite local_text fun _ => .ite local_number
      fun _ => .ite (fun _ => local_word _) fun _ =>
  local_stray

end Scanners

end Lexeme

end Hotplug
