import Gpgme.Conversion
import Gpgme.Lib.Decimal
import Gpgme.Lib.Lines

/-! The configuration options of `engine-gpgconf.c`: the text that `gpgconf_conf_save` writes for
changed options, and `gpgconf_parse_option`, which reads the values of an option.
-/

namespace Gpgme

open CString

-----------------------------------------------------------------------------------------
-- Options and their arguments
-----------------------------------------------------------------------------------------

/-- `gpgme_conf_type_t`. -/
inductive ConfType where
  | none
  | string
  | int32
  | uint32
  | filename
  | ldapServer
  | keyFpr
  | pubKey
  | secKey
  | aliasList
deriving DecidableEq

/-- The values of the type are strings. -/
def ConfType.isString : ConfType → Bool
  | .none | .int32 | .uint32 => false
  | _ => true

/-- `struct gpgme_conf_arg` without its link. The members of the union are kept apart; the type
says which one is used.
-/
structure ConfArg where
  noArg : Bool := false
  uint32 : UInt32 := 0
  string : Option Str := none
deriving DecidableEq

/-- The argument is one that `gpgme_conf_arg_new` makes. -/
def ConfArg.Proper (altType : ConfType) (arg : ConfArg) : Prop :=
  if altType.isString then
    arg.uint32 = 0
    ∧ (arg.noArg = true ↔ arg.string = none)
    ∧ ∀ text, arg.string = some text → ∀ c ∈ text, c ≠ 0
  else
    arg.string = none ∧ (arg.noArg = true → arg.uint32 = 0)

/-- The part of `struct gpgme_conf_opt` that is used to change it. A null pointer for the new
value is an empty list.
-/
structure ConfOpt where
  name : Str
  type : ConfType
  altType : ConfType
  changeValue : Bool
  newValue : List ConfArg
  namePlain : ∀ c ∈ name, c ≠ 58 ∧ c ≠ Lines.lineFeed
  proper : ∀ arg ∈ newValue, arg.Proper altType

-----------------------------------------------------------------------------------------
-- Writing
-----------------------------------------------------------------------------------------

/-- A character of a string value: percent signs, colons and commas are escaped. -/
def escapeValue (c : UInt8) : Str :=
  if c = 37 then str "%25" else if c = 58 then str "%3a" else if c = 44 then str "%2c" else [c]

/-- What `arg_to_data` writes for one argument. -/
def ConfArg.text (altType : ConfType) (arg : ConfArg) : Str :=
  match altType with
  | .none | .uint32 => decimal arg.uint32.toNat
  | .int32 => decimalInt (CInt.toInt arg.uint32.toNat)
  | _ =>
      match arg.string with
      | Option.none => []
      | some text => 34 :: text.flatMap escapeValue

/-- `arg_to_data`. -/
def argToData (altType : ConfType) : List ConfArg → Str
  | [] => []
  | [arg] => arg.text altType
  | arg :: rest => arg.text altType ++ 44 :: argToData altType rest

/-- `GPGME_CONF_DEFAULT`, when there is no new value. -/
def ConfOpt.flags (opt : ConfOpt) : Nat := if opt.newValue = [] then 16 else 0

/-- The line for an option. -/
def ConfOpt.line (opt : ConfOpt) : Str :=
  opt.name ++ 58 :: (decimal opt.flags ++ 58 :: argToData opt.altType opt.newValue)

/-- The text that `gpgconf_conf_save` passes to gpgconf. -/
def gpgconfConfSave : List ConfOpt → Str
  | [] => []
  | opt :: rest =>
      if opt.changeValue then opt.line ++ Lines.lineFeed :: gpgconfConfSave rest
      else gpgconfConfSave rest

-----------------------------------------------------------------------------------------
-- Reading
-----------------------------------------------------------------------------------------

/-- The values between the commas; a comma at the end is followed by no value. -/
def valuesFrom : Str → Str → List Str
  | value, [] => [value]
  | value, c :: rest =>
      if c = 44 then value :: if rest = [] then [] else valuesFrom [] rest
      else valuesFrom (value ++ [c]) rest

/-- The values of an option, which are not separated if its type is a string. -/
def confValues (type : ConfType) (line : Str) : List Str :=
  if line = [] then []
  else if type = .string then [line]
  else valuesFrom [] line

/-- What `gpgconf_parse_option` makes of one value. The character in front of a string is skipped. -/
def parseValue (altType : ConfType) (value : Str) : ConfArg :=
  if value = [] then { noArg := true }
  else
    match altType with
    | .none | .uint32 => { uint32 := UInt32.ofNat (strtoul 0 value).value }
    | .int32 => { uint32 := UInt32.ofNat (CInt.toUnsigned (strtol 0 value).value) }
    | _ => { string := some (decodePercentString value.tail) }

/-- `gpgconf_parse_option`. -/
def gpgconfParseOption (type altType : ConfType) (line : Str) : List ConfArg :=
  (confValues type line).map (parseValue altType)

-----------------------------------------------------------------------------------------
-- One argument
-----------------------------------------------------------------------------------------

theorem digitCode_plain {d : Nat} (small : d < 10)
    : digitCode d ≠ 44 ∧ digitCode d ≠ 58 ∧ digitCode d ≠ Lines.lineFeed := by
  interval_cases d <;> decide

theorem decimal_plain {n : Nat} {c : UInt8} (member : c ∈ decimal n)
    : c ≠ 44 ∧ c ≠ 58 ∧ c ≠ Lines.lineFeed := by
  obtain ⟨first, rest, digits, below, _, others⟩ := decimal_digits n
  rw [digits] at member
  rcases List.mem_cons.mp member with rfl | member
  · exact digitCode_plain below
  · obtain ⟨d, small, rfl⟩ := others c member
    exact digitCode_plain small

theorem decimalInt_plain {n : Int} {c : UInt8} (member : c ∈ decimalInt n)
    : c ≠ 44 ∧ c ≠ 58 ∧ c ≠ Lines.lineFeed := by
  unfold decimalInt at member
  split at member
  · rcases List.mem_cons.mp member with rfl | member
    · decide
    · exact decimal_plain member
  · exact decimal_plain member

theorem escapeValue_plain {c d : UInt8} (member : d ∈ escapeValue c)
    : d ≠ 44 ∧ d ≠ 58 ∧ (d = Lines.lineFeed → c = Lines.lineFeed) := by
  have escape {text : Str} (plain : text.all (fun e => e != 44 && e != 58 && e != 10) = true)
      (member : d ∈ text)
      : d ≠ 44 ∧ d ≠ 58 ∧ (d = Lines.lineFeed → c = Lines.lineFeed) := by
    have here := List.all_eq_true.mp plain d member
    simp only [Bool.and_eq_true, bne_iff_ne, ne_eq] at here
    exact ⟨here.1.1, here.1.2, fun ends => absurd ends here.2⟩
  unfold escapeValue at member
  split at member
  · exact escape (by decide) member
  split at member
  · exact escape (by decide) member
  split at member
  · exact escape (by decide) member
  · obtain rfl := List.mem_singleton.mp member
    exact ⟨‹_›, ‹_›, id⟩

theorem decode_escapeValue (text : Str)
    : decodePercentString (text.flatMap escapeValue) = text := by
  induction text with
  | nil => rfl
  | cons c rest ih =>
      rw [List.flatMap_cons]
      generalize rest.flatMap escapeValue = tail at ih
      unfold escapeValue
      split
      · next percent =>
          subst percent
          exact congrArg (37 :: ·) ih
      split
      · next colon =>
          subst colon
          exact congrArg (58 :: ·) ih
      split
      · next comma =>
          subst comma
          exact congrArg (44 :: ·) ih
      · next other _ _ =>
          rw [List.singleton_append, decodePercentString.eq_def]
          dsimp only
          rw [if_pos other, ih]

theorem ConfArg.text_string {altType : ConfType} (strings : altType.isString) (arg : ConfArg)
    : arg.text altType
      = match arg.string with
        | none => []
        | some text => 34 :: text.flatMap escapeValue := by
  unfold ConfArg.text
  split
  · cases strings
  · cases strings
  · cases strings
  · rfl

theorem ConfArg.text_plain {altType : ConfType} {arg : ConfArg} {c : UInt8}
    (member : c ∈ arg.text altType)
    : c ≠ 44
      ∧ c ≠ 58
      ∧ (c = Lines.lineFeed → ∃ text, arg.string = some text ∧ Lines.lineFeed ∈ text) := by
  have number (plain : c ≠ 44 ∧ c ≠ 58 ∧ c ≠ Lines.lineFeed)
      : c ≠ 44
        ∧ c ≠ 58
        ∧ (c = Lines.lineFeed → ∃ text, arg.string = some text ∧ Lines.lineFeed ∈ text) :=
    ⟨plain.1, plain.2.1, fun ends => absurd ends plain.2.2⟩
  by_cases strings : altType.isString = true
  · rw [ConfArg.text_string strings] at member
    cases found : arg.string with
    | none =>
        rw [found] at member
        cases member
    | some text =>
        rw [found] at member
        rcases List.mem_cons.mp member with rfl | member
        · exact ⟨by decide, by decide, fun ends => by cases ends⟩
        · obtain ⟨d, inside, escaped⟩ := List.mem_flatMap.mp member
          obtain ⟨comma, colon, lineFeed⟩ := escapeValue_plain escaped
          exact ⟨comma, colon, fun ends => ⟨text, rfl, lineFeed ends ▸ inside⟩⟩
  · cases altType with
    | none => exact number (decimal_plain member)
    | uint32 => exact number (decimal_plain member)
    | int32 => exact number (decimalInt_plain member)
    | _ => exact absurd rfl strings

theorem ConfArg.lineFeed_mem_text {altType : ConfType} {arg : ConfArg} {text : Str}
    (strings : altType.isString) (found : arg.string = some text)
    (member : Lines.lineFeed ∈ text)
    : Lines.lineFeed ∈ arg.text altType := by
  rw [ConfArg.text_string strings, found]
  refine List.mem_cons_of_mem _ (List.mem_flatMap.mpr ⟨_, member, ?_⟩)
  decide

theorem decimal_ne_nil (n : Nat) : decimal n ≠ [] := by
  obtain ⟨first, rest, digits, _⟩ := decimal_digits n
  rw [digits]
  exact List.cons_ne_nil _ _

theorem ConfArg.text_number_ne_nil {altType : ConfType} (numbers : altType.isString = false)
    (arg : ConfArg)
    : arg.text altType ≠ [] := by
  cases altType with
  | none => exact decimal_ne_nil _
  | uint32 => exact decimal_ne_nil _
  | int32 =>
      simp only [ConfArg.text, decimalInt]
      split
      · exact List.cons_ne_nil _ _
      · exact decimal_ne_nil _
  | _ => cases numbers

theorem uint32_signed (n : UInt32)
    : UInt32.ofNat (CInt.toUnsigned (CInt.toInt n.toNat)) = n := by
  have small := n.toNat_lt
  have value : CInt.toUnsigned (CInt.toInt n.toNat) = n.toNat := by
    unfold CInt.toUnsigned CInt.toInt
    omega
  rw [value, UInt32.ofNat_toNat]

theorem parseValue_string {altType : ConfType} {arg : ConfArg} (strings : altType.isString)
    (proper : arg.Proper altType)
    : parseValue altType (arg.text altType) = arg := by
  rw [ConfArg.Proper, if_pos strings] at proper
  obtain ⟨noArg, uint32, string⟩ := arg
  obtain ⟨rfl, left, _⟩ := proper
  rw [ConfArg.text_string strings]
  cases string with
  | none =>
      obtain rfl : noArg = true := left.mpr rfl
      rfl
  | some text =>
      obtain rfl : noArg = false := by simpa using left
      have decoded := decode_escapeValue text
      unfold parseValue
      dsimp only
      rw [if_neg (List.cons_ne_nil _ _), List.tail_cons, decoded]
      cases altType <;> first | rfl | cases strings

theorem parseValue_number {altType : ConfType} {arg : ConfArg}
    (numbers : altType.isString = false) (proper : arg.Proper altType)
    : parseValue altType (arg.text altType) = { arg with noArg := false } := by
  have nonempty := ConfArg.text_number_ne_nil numbers arg
  rw [ConfArg.Proper, if_neg (by simp [numbers])] at proper
  obtain ⟨noArg, uint32, string⟩ := arg
  obtain ⟨rfl, _⟩ := proper
  have small := uint32.toNat_lt
  have unsigned : UInt32.ofNat (strtoul 0 (decimal uint32.toNat)).value = uint32 := by
    rw [strtoul_decimal (by unfold maxUlong; omega), UInt32.ofNat_toNat]
  unfold parseValue
  rw [if_neg nonempty]
  cases altType with
  | none => simp only [ConfArg.text, unsigned]
  | uint32 => simp only [ConfArg.text, unsigned]
  | int32 =>
      have low : minLong ≤ CInt.toInt uint32.toNat := by unfold minLong CInt.toInt; omega
      have high : CInt.toInt uint32.toNat ≤ maxLong := by unfold maxLong CInt.toInt; omega
      simp only [ConfArg.text, strtol_decimalInt low high, uint32_signed]
  | _ => cases numbers

-----------------------------------------------------------------------------------------
-- The values of an option
-----------------------------------------------------------------------------------------

theorem valuesFrom_plain {value text : Str} (plain : ∀ c ∈ text, c ≠ 44)
    : valuesFrom value text = [value ++ text] := by
  induction text generalizing value with
  | nil => simp [valuesFrom]
  | cons c rest ih =>
      obtain ⟨first, later⟩ := List.forall_mem_cons.mp plain
      rw [valuesFrom, if_neg first, ih later, List.append_assoc, List.singleton_append]

theorem valuesFrom_comma {value text : Str} (plain : ∀ c ∈ text, c ≠ 44) (rest : Str)
    : valuesFrom value (text ++ 44 :: rest)
      = (value ++ text) :: if rest = [] then [] else valuesFrom [] rest := by
  induction text generalizing value with
  | nil => simp [valuesFrom]
  | cons c more ih =>
      obtain ⟨first, later⟩ := List.forall_mem_cons.mp plain
      rw [List.cons_append, valuesFrom, if_neg first, ih later, List.append_assoc,
        List.singleton_append]

/-- Without an empty value at the end. -/
def dropEmptyLast (values : List Str) : List Str :=
  if values.getLast? = some [] then values.dropLast else values

theorem confValues_argToData {type : ConfType} (separated : type ≠ .string) (altType : ConfType)
    (args : List ConfArg)
    : confValues type (argToData altType args)
      = dropEmptyLast (args.map (ConfArg.text altType)) := by
  have plain (arg : ConfArg) : ∀ c ∈ arg.text altType, c ≠ 44 :=
    fun c member => (ConfArg.text_plain member).1
  unfold confValues
  rw [if_neg separated]
  induction args with
  | nil => rfl
  | cons arg rest ih =>
      cases rest with
      | nil =>
          rw [argToData, valuesFrom_plain (plain arg), List.map_singleton, dropEmptyLast,
            List.getLast?_singleton, List.nil_append]
          by_cases empty : arg.text altType = []
          · rw [if_pos empty, empty]
            rfl
          · rw [if_neg empty, if_neg (by simpa using empty)]
      | cons next more =>
          have written : argToData altType (arg :: next :: more)
              = arg.text altType ++ 44 :: argToData altType (next :: more) := rfl
          rw [written, valuesFrom_comma (plain arg), ih, if_neg (by simp), List.nil_append,
            List.map_cons (l := next :: more)]
          generalize ended : (next :: more).map (ConfArg.text altType) = values
          have nonempty : values ≠ [] := by
            rw [← ended]
            simp
          unfold dropEmptyLast
          rw [List.getLast?_cons_of_ne_nil nonempty, List.dropLast_cons_of_ne_nil nonempty]
          split <;> rfl

theorem confValues_short {args : List ConfArg} (short : args.length ≤ 1) (type altType : ConfType)
    : confValues type (argToData altType args) = confValues .none (argToData altType args) := by
  match args, short with
  | [], _ => rfl
  | [arg], _ =>
      have values : valuesFrom [] (arg.text altType) = [arg.text altType] :=
        valuesFrom_plain fun c member => (ConfArg.text_plain member).1
      unfold confValues
      rw [argToData, values]
      simp

/-- The markers of arguments that are left out can be read: a number is always there, and so is
the last string.
-/
def ConfOpt.MarkersKept (opt : ConfOpt) : Prop :=
  if opt.altType.isString then ∀ arg, opt.newValue.getLast? = some arg → arg.noArg = false
  else ∀ arg ∈ opt.newValue, arg.noArg = false

theorem ConfArg.Proper.text_eq_nil_iff {altType : ConfType} {arg : ConfArg}
    (proper : arg.Proper altType) (strings : altType.isString)
    : arg.text altType = [] ↔ arg.noArg = true := by
  rw [ConfArg.Proper, if_pos strings] at proper
  rw [proper.2.1, ConfArg.text_string strings]
  cases arg.string with
  | none => simp
  | some text => simp

theorem map_eq_self {α : Type} {f : α → α} {l : List α} (kept : ∀ a ∈ l, f a = a)
    : l.map f = l :=
  (List.map_congr_left kept).trans (List.map_id l)

theorem parse_strings_iff (opt : ConfOpt) (strings : opt.altType.isString)
    : (dropEmptyLast (opt.newValue.map (ConfArg.text opt.altType))).map (parseValue opt.altType)
        = opt.newValue
      ↔ ∀ arg, opt.newValue.getLast? = some arg → arg.noArg = false := by
  have read : ∀ arg ∈ opt.newValue,
      (parseValue opt.altType ∘ ConfArg.text opt.altType) arg = arg :=
    fun arg member => parseValue_string strings (opt.proper arg member)
  have last : (opt.newValue.map (ConfArg.text opt.altType)).getLast? = some []
      ↔ ∃ arg, opt.newValue.getLast? = some arg ∧ arg.noArg = true := by
    rw [List.getLast?_map, Option.map_eq_some_iff]
    refine exists_congr fun arg => and_congr_right fun found => ?_
    exact (opt.proper arg (List.mem_of_getLast? found)).text_eq_nil_iff strings
  unfold dropEmptyLast
  split
  · next empty =>
      obtain ⟨arg, found, left⟩ := last.mp empty
      have shorter : (opt.newValue.dropLast).length < opt.newValue.length := by
        have nonempty := List.length_pos_of_mem (List.mem_of_getLast? found)
        rw [List.length_dropLast]
        omega
      refine iff_of_false ?_ fun given => by simp [given arg found] at left
      intro same
      rw [← List.map_dropLast, List.map_map,
        map_eq_self fun arg member => read arg (List.mem_of_mem_dropLast member)] at same
      rw [same] at shorter
      exact absurd shorter (lt_irrefl _)
  · next given =>
      refine iff_of_true ?_ ?_
      · rw [List.map_map]
        exact map_eq_self read
      · intro arg found
        by_contra left
        exact given (last.mpr ⟨arg, found, by simpa using left⟩)

theorem parse_numbers_iff (opt : ConfOpt) (numbers : opt.altType.isString = false)
    : (dropEmptyLast (opt.newValue.map (ConfArg.text opt.altType))).map (parseValue opt.altType)
        = opt.newValue
      ↔ ∀ arg ∈ opt.newValue, arg.noArg = false := by
  have full : dropEmptyLast (opt.newValue.map (ConfArg.text opt.altType))
      = opt.newValue.map (ConfArg.text opt.altType) := by
    refine if_neg fun empty => ?_
    obtain ⟨arg, _, text⟩ := List.mem_map.mp (List.mem_of_getLast? empty)
    exact ConfArg.text_number_ne_nil numbers arg text
  have read : opt.newValue.map (parseValue opt.altType ∘ ConfArg.text opt.altType)
      = opt.newValue.map (fun arg => { arg with noArg := false }) :=
    List.map_congr_left fun arg member => parseValue_number numbers (opt.proper arg member)
  rw [full, List.map_map, read]
  constructor
  · intro same arg member
    rw [← same] at member
    obtain ⟨_, _, rfl⟩ := List.mem_map.mp member
    rfl
  · intro given
    refine map_eq_self fun arg member => ?_
    have here := given arg member
    rw [← here]

theorem parseOption_iff (opt : ConfOpt)
    : gpgconfParseOption opt.type opt.altType (argToData opt.altType opt.newValue) = opt.newValue
      ↔ (opt.type = .string → opt.newValue.length ≤ 1) ∧ opt.MarkersKept := by
  have separated {type : ConfType} (different : type ≠ .string)
      : gpgconfParseOption type opt.altType (argToData opt.altType opt.newValue) = opt.newValue
        ↔ opt.MarkersKept := by
    unfold gpgconfParseOption ConfOpt.MarkersKept
    rw [confValues_argToData different]
    split
    · next strings => exact parse_strings_iff opt strings
    · next numbers => exact parse_numbers_iff opt (by simpa using numbers)
  by_cases one : opt.type = .string
  · have short_iff (short : opt.newValue.length ≤ 1)
        : gpgconfParseOption opt.type opt.altType (argToData opt.altType opt.newValue)
            = opt.newValue
          ↔ opt.MarkersKept := by
      rw [gpgconfParseOption, confValues_short short]
      exact separated (by decide)
    constructor
    · intro same
      have short : opt.newValue.length ≤ 1 := by
        rw [← same, gpgconfParseOption, confValues, one]
        split <;> simp
      exact ⟨fun _ => short, (short_iff short).mp same⟩
    · rintro ⟨short, kept⟩
      exact (short_iff (short one)).mpr kept
  · rw [separated one]
    exact (and_iff_right fun string => absurd string one).symm

-----------------------------------------------------------------------------------------
-- The whole text
-----------------------------------------------------------------------------------------

/-- A line says what is meant for an option: its name, whether it gets its default, and a value
that is read as the new arguments.
-/
def ConfOpt.MeantBy (opt : ConfOpt) (line : Str) : Prop :=
  ∃ value,
    line.splitOn 58 = [opt.name, decimal opt.flags, value]
    ∧ gpgconfParseOption opt.type opt.altType value = opt.newValue

/-- The text has one line for each changed option, in order, which says what is meant. -/
def WrittenAsMeant (options : List ConfOpt) (text : Str) : Prop :=
  Lines.unfinished [] text = []
  ∧ List.Forall₂ ConfOpt.MeantBy (options.filter ConfOpt.changeValue) (Lines.complete [] text)

/-- The strings hold no line feed, a string option has at most one argument, and the markers of
arguments that are left out can be read.
-/
structure ConfOpt.Survives (opt : ConfOpt) : Prop where
  plain : ∀ arg ∈ opt.newValue, ∀ text, arg.string = some text → Lines.lineFeed ∉ text
  single : opt.type = .string → opt.newValue.length ≤ 1
  markers : opt.MarkersKept

theorem mem_argToData {altType : ConfType} {args : List ConfArg} {c : UInt8}
    : c ∈ argToData altType args ↔ (∃ arg ∈ args, c ∈ arg.text altType)
        ∨ (c = 44 ∧ 2 ≤ args.length) := by
  induction args with
  | nil => simp [argToData]
  | cons arg rest ih =>
      cases rest with
      | nil => simp [argToData]
      | cons next more =>
          have written : argToData altType (arg :: next :: more)
              = arg.text altType ++ 44 :: argToData altType (next :: more) := rfl
          rw [written, List.mem_append, List.mem_cons, ih]
          simp only [List.mem_cons, exists_eq_or_imp, List.length_cons]
          constructor
          · rintro (here | rfl | (later | ⟨rfl, _⟩))
            · exact Or.inl (Or.inl here)
            · exact Or.inr ⟨rfl, by omega⟩
            · exact Or.inl (Or.inr later)
            · exact Or.inr ⟨rfl, by omega⟩
          · rintro ((here | later) | ⟨rfl, _⟩)
            · exact Or.inl here
            · exact Or.inr (Or.inr (Or.inl later))
            · exact Or.inr (Or.inl rfl)

theorem ConfOpt.lineFeed_mem_line (opt : ConfOpt)
    : Lines.lineFeed ∈ opt.line
      ↔ ∃ arg ∈ opt.newValue, ∃ text, arg.string = some text ∧ Lines.lineFeed ∈ text := by
  have inName : Lines.lineFeed ∉ opt.name := fun member => (opt.namePlain _ member).2 rfl
  have inFlags : Lines.lineFeed ∉ decimal opt.flags := fun member => (decimal_plain member).2.2 rfl
  have colon : Lines.lineFeed ≠ 58 := by decide
  have comma : Lines.lineFeed ≠ 44 := by decide
  unfold ConfOpt.line
  simp only [List.mem_append, List.mem_cons, inName, inFlags, colon, comma, false_or,
    mem_argToData, false_and, or_false]
  refine exists_congr fun arg => and_congr_right fun member => ⟨?_, ?_⟩
  · intro inside
    exact (ConfArg.text_plain inside).2.2 rfl
  · rintro ⟨text, found, inside⟩
    have strings : opt.altType.isString = true := by
      by_contra numbers
      have proper := opt.proper arg member
      rw [ConfArg.Proper, if_neg numbers, found] at proper
      cases proper.1
    exact ConfArg.lineFeed_mem_text strings found inside

theorem ConfOpt.line_fields (opt : ConfOpt)
    : opt.line.splitOn 58 = [opt.name, decimal opt.flags, argToData opt.altType opt.newValue] := by
  have inName : 58 ∉ opt.name := fun member => (opt.namePlain _ member).1 rfl
  have inFlags : 58 ∉ decimal opt.flags := fun member => (decimal_plain member).2.1 rfl
  have inValue : 58 ∉ argToData opt.altType opt.newValue := by
    rw [mem_argToData]
    rintro (⟨arg, _, inside⟩ | ⟨comma, _⟩)
    · exact (ConfArg.text_plain inside).2.1 rfl
    · cases comma
  unfold ConfOpt.line
  rw [List.splitOn_append_cons_self_of_not_mem inName,
    List.splitOn_append_cons_self_of_not_mem inFlags, List.splitOn_eq_singleton inValue]

theorem ConfOpt.meantBy_line_iff (opt : ConfOpt)
    : opt.MeantBy opt.line
      ↔ (opt.type = .string → opt.newValue.length ≤ 1) ∧ opt.MarkersKept := by
  rw [← parseOption_iff]
  unfold ConfOpt.MeantBy
  rw [opt.line_fields]
  constructor
  · rintro ⟨value, fields, read⟩
    simp only [List.cons.injEq, and_true, true_and] at fields
    rwa [fields]
  · intro read
    exact ⟨_, rfl, read⟩

theorem confSave_lines {options : List ConfOpt}
    (plain : ∀ opt ∈ options, opt.changeValue → Lines.lineFeed ∉ opt.line)
    : Lines.complete [] (gpgconfConfSave options)
        = (options.filter ConfOpt.changeValue).map ConfOpt.line
      ∧ Lines.unfinished [] (gpgconfConfSave options) = [] := by
  induction options with
  | nil => exact ⟨rfl, rfl⟩
  | cons opt rest ih =>
      obtain ⟨here, later⟩ := List.forall_mem_cons.mp plain
      obtain ⟨lines, ended⟩ := ih later
      rw [gpgconfConfSave]
      split
      · next changed =>
          rw [Lines.complete_line (here changed), Lines.unfinished_line, lines, ended,
            List.filter_cons_of_pos changed, List.map_cons]
          exact ⟨rfl, rfl⟩
      · next unchanged =>
          rw [List.filter_cons_of_neg unchanged]
          exact ⟨lines, ended⟩

theorem confSave_count (options : List ConfOpt)
    : (options.filter ConfOpt.changeValue).length ≤ (gpgconfConfSave options).count Lines.lineFeed
      ∧ ((∃ opt ∈ options, opt.changeValue ∧ Lines.lineFeed ∈ opt.line)
        → (options.filter ConfOpt.changeValue).length
          < (gpgconfConfSave options).count Lines.lineFeed) := by
  induction options with
  | nil => simp [gpgconfConfSave]
  | cons opt rest ih =>
      obtain ⟨least, more⟩ := ih
      rw [gpgconfConfSave]
      split
      · next changed =>
          rw [List.filter_cons_of_pos changed, List.length_cons, List.count_append,
            List.count_cons_self]
          refine ⟨by omega, ?_⟩
          rintro ⟨found, member, changed', inside⟩
          rcases List.mem_cons.mp member with rfl | member
          · have some := List.count_pos_iff.mpr inside
            omega
          · have strict := more ⟨found, member, changed', inside⟩
            omega
      · next unchanged =>
          rw [List.filter_cons_of_neg unchanged]
          refine ⟨least, ?_⟩
          rintro ⟨found, member, changed', inside⟩
          rcases List.mem_cons.mp member with rfl | member
          · exact absurd changed' unchanged
          · exact more ⟨found, member, changed', inside⟩

/-- The text says what is meant exactly when every changed option survives. -/
theorem confSave_writtenAsMeant_iff (options : List ConfOpt)
    : WrittenAsMeant options (gpgconfConfSave options)
      ↔ ∀ opt ∈ options, opt.changeValue → opt.Survives := by
  by_cases plain : ∀ opt ∈ options, opt.changeValue → Lines.lineFeed ∉ opt.line
  · obtain ⟨lines, ended⟩ := confSave_lines plain
    unfold WrittenAsMeant
    rw [lines, ended, and_iff_right rfl, List.forall₂_map_right_iff, List.forall₂_same]
    simp only [List.mem_filter, and_imp, ConfOpt.meantBy_line_iff]
    refine forall_congr' fun opt => forall_congr' fun member => forall_congr' fun changed => ?_
    constructor
    · rintro ⟨single, markers⟩
      refine ⟨?_, single, markers⟩
      intro arg given text found inside
      exact plain opt member changed (opt.lineFeed_mem_line.mpr ⟨arg, given, text, found, inside⟩)
    · intro survives
      exact ⟨survives.single, survives.markers⟩
  · simp only [not_forall, not_not] at plain
    obtain ⟨opt, member, changed, inside⟩ := plain
    refine iff_of_false ?_ ?_
    · rintro ⟨_, meant⟩
      have strict := (confSave_count options).2 ⟨opt, member, changed, inside⟩
      have length := meant.length_eq
      rw [Lines.length_complete] at length
      omega
    · intro survives
      obtain ⟨arg, given, text, found, fed⟩ := opt.lineFeed_mem_line.mp inside
      exact (survives opt member changed).plain arg given text found fed

/-- The string option `x` with a value of two lines, of which the second one looks like another
option.
-/
def twoLines : ConfOpt where
  name := str "x"
  type := .string
  altType := .string
  changeValue := true
  newValue := [{ string := some (str "a\ny") }]
  namePlain := by
    intro c member
    obtain rfl := List.mem_singleton.mp member
    decide
  proper := by
    intro arg member
    obtain rfl := List.mem_singleton.mp member
    refine ⟨rfl, by simp, ?_⟩
    rintro text ⟨⟩ c inside
    rintro rfl
    revert inside
    decide

/-- A value of two lines breaks out of its line. -/
theorem confSave_breaks_line : ¬ WrittenAsMeant [twoLines] (gpgconfConfSave [twoLines]) := by
  rintro ⟨_, meant⟩
  have lines : Lines.complete [] (gpgconfConfSave [twoLines]) = [str "x:0:\"a", str "y"] := by
    decide
  have length := meant.length_eq
  rw [lines] at length
  cases length

end Gpgme
