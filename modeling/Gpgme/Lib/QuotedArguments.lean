import Mathlib.Tactic

/-! Command lines whose arguments are in double quotes. A run of backslashes in front of a quote
stands for half as many of them; when it is odd, the quote stands for itself. Other backslashes
stand for themselves.
-/

namespace QuotedArguments

def backslash : UInt8 := 92
def quote : UInt8 := 34

def isDelimiter (c : UInt8) : Bool := c == 32 || c == 9

/-- The arguments of a line, where `slashes` backslashes were read in a row, inside quotes or not;
`current` is the argument in front of them, if one has begun.
-/
def split (quoted : Bool) (slashes : Nat) (current : Option (List UInt8))
    : List UInt8 → List (List UInt8)
  | [] => (current.map (· ++ List.replicate slashes backslash)).toList
  | c :: line =>
      if c = backslash then split quoted (slashes + 1) (some (current.getD [])) line
      else if c = quote then
        let text := current.getD [] ++ List.replicate (slashes / 2) backslash
        if slashes % 2 = 1 then split quoted 0 (some (text ++ [quote])) line
        else split (!quoted) 0 (some text) line
      else if !quoted && isDelimiter c then
        (current.map (· ++ List.replicate slashes backslash)).toList ++ split false 0 none line
      else
        split quoted 0
          (some (current.getD [] ++ List.replicate slashes backslash ++ [c])) line

/-- The arguments of a whole line. -/
def arguments (line : List UInt8) : List (List UInt8) := split false 0 none line

/-- An argument in quotes, with a backslash in front of each backslash and each quote. -/
def escapeAll (argument : List UInt8) : List UInt8 :=
  argument.flatMap (fun c => if c = backslash ∨ c = quote then [backslash, c] else [c])

/-- What is read of an argument that is escaped so, behind `slashes` of its backslashes: those in
front of a quote or of the end once, others twice.
-/
def readBack (slashes : Nat) : List UInt8 → List UInt8
  | [] => List.replicate slashes backslash
  | c :: argument =>
      if c = backslash then readBack (slashes + 1) argument
      else if c = quote then List.replicate slashes backslash ++ quote :: readBack 0 argument
      else List.replicate (2 * slashes) backslash ++ c :: readBack 0 argument

/-- Each backslash is in front of a backslash, of a quote or of the end. -/
def SlashesProtect (argument : List UInt8) : Prop :=
  argument.IsChain (fun c next => c = backslash → next = backslash ∨ next = quote)

instance (argument : List UInt8) : Decidable (SlashesProtect argument) :=
  inferInstanceAs (Decidable (List.IsChain _ argument))

/-- The escaped argument is read up to its closing quote, by induction on it. -/
theorem split_escapeAll (argument line current : List UInt8) (slashes : Nat)
    : split true (2 * slashes) (some current) (escapeAll argument ++ quote :: 32 :: line)
      = (current ++ readBack slashes argument) :: split false 0 none line := by
  have quoteOther : quote ≠ backslash := by decide
  induction argument generalizing slashes current with
  | nil =>
      rw [escapeAll, List.flatMap_nil, List.nil_append, split, if_neg quoteOther, if_pos rfl]
      simp [split, readBack, isDelimiter, quote, backslash]
  | cons c argument ih =>
      rw [escapeAll, List.flatMap_cons, ← escapeAll, readBack]
      by_cases slash : c = backslash
      · rw [if_pos (.inl slash), slash, if_pos rfl]
        simp only [List.cons_append, List.nil_append]
        rw [split, if_pos rfl, split, if_pos rfl]
        exact ih current (slashes + 1)
      by_cases quoting : c = quote
      · rw [if_pos (.inr quoting), quoting, if_neg quoteOther, if_pos rfl]
        have next := ih (current ++ List.replicate slashes backslash ++ [quote]) 0
        simp only [List.cons_append, List.nil_append, split, if_pos, if_neg quoteOther,
          Option.getD_some]
        rw [show (2 * slashes + 1) % 2 = 1 by omega, if_pos rfl,
          show (2 * slashes + 1) / 2 = slashes by omega]
        rw [Nat.mul_zero] at next
        rw [next]
        simp
      · have next :=
          ih (current ++ List.replicate (2 * slashes) backslash ++ [c]) 0
        rw [Nat.mul_zero] at next
        rw [if_neg (by simp [slash, quoting]), if_neg slash, if_neg quoting, List.singleton_append,
          List.cons_append, split, if_neg slash, if_neg quoting, if_neg (by simp),
          Option.getD_some, next]
        simp

/-- Backslashes in front of a byte protect it if it is a quote; none protect any byte. -/
theorem slashesProtect_run_iff (slashes : Nat) {c : UInt8} {argument : List UInt8}
    (other : c ≠ backslash)
    : SlashesProtect (List.replicate slashes backslash ++ c :: argument)
      ↔ (slashes = 0 ∨ c = quote) ∧ SlashesProtect argument := by
  have single : SlashesProtect (List.replicate slashes backslash) :=
    List.isChain_replicate_of_rel slashes (fun _ => .inl rfl)
  have later : SlashesProtect (c :: argument) ↔ SlashesProtect argument := by
    rw [SlashesProtect, List.isChain_cons]
    exact and_iff_right (fun _ _ same => absurd same other)
  rw [SlashesProtect, List.isChain_append, ← SlashesProtect, ← SlashesProtect, later]
  constructor
  · rintro ⟨-, protect, next⟩
    refine ⟨?_, protect⟩
    rcases Nat.eq_zero_or_pos slashes with none | some
    · exact .inl none
    · have last : (List.replicate slashes backslash).getLast? = Option.some backslash := by
        rw [List.getLast?_replicate, if_neg (by omega)]
      rcases next backslash last c rfl rfl with same | same
      · exact absurd same other
      · exact .inr same
  · rintro ⟨none | same, protect⟩
    · refine ⟨single, protect, ?_⟩
      rw [none]
      intro last member
      cases member
    · refine ⟨single, protect, ?_⟩
      intro last member next first slash
      cases first
      exact .inr same

/-- An argument is read back exactly where its backslashes protect something, by induction on it. -/
theorem readBack_eq_iff (slashes : Nat) (argument : List UInt8)
    : readBack slashes argument = List.replicate slashes backslash ++ argument
      ↔ SlashesProtect (List.replicate slashes backslash ++ argument) := by
  induction argument generalizing slashes with
  | nil =>
      rw [readBack, List.append_nil]
      exact iff_of_true rfl (List.isChain_replicate_of_rel slashes (fun _ => .inl rfl))
  | cons c argument ih =>
      have rest := ih 0
      rw [List.replicate_zero, List.nil_append] at rest
      rw [readBack]
      by_cases slash : c = backslash
      · have longer
            : List.replicate slashes backslash ++ backslash :: argument
              = List.replicate (slashes + 1) backslash ++ argument := by
          rw [List.replicate_succ', List.append_assoc, List.singleton_append]
        rw [if_pos slash, slash, longer]
        exact ih (slashes + 1)
      rw [if_neg slash, slashesProtect_run_iff slashes slash]
      by_cases quoting : c = quote
      · rw [if_pos quoting, quoting, List.append_right_inj, List.cons.injEq, rest]
        simp
      rw [if_neg quoting]
      rcases Nat.eq_zero_or_pos slashes with none | some
      · rw [none, Nat.mul_zero, List.replicate_zero, List.nil_append, List.nil_append,
          List.cons.injEq, rest]
        simp
      · -- Behind the run one text has another backslash, the other one the byte.
        refine iff_of_false ?_ ?_
        · intro same
          have here := congrArg (fun text => text[slashes]?) same
          rw [List.getElem?_append_left (by simp; omega),
            List.getElem?_append_right (by simp)] at here
          simp [List.getElem?_replicate] at here
          exact slash here.2.symm
        · rintro ⟨none | same, -⟩
          · omega
          · exact quoting same

end QuotedArguments
