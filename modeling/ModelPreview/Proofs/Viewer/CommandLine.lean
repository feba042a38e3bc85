import Mathlib
import ModelPreview.Proofs.Json.Writing
import ModelPreview.Viewer.CommandLine

/-!
# The grammar of the command line

The arguments are read as pairs of a flag and its value.  What has been read at any time is described
by the pairs in front: of most flags the last value counts, and models are collected.  Reading stops
at the first pair that is not accepted, and the report is about that pair.

Main definitions:

- `SpellsWord`: the texts that stand for a number.
- `CommandLine.Accepted`: a flag with a value that it takes.
- `CommandLine.MeantBy`: what pairs of flags and values ask for.
- `CommandLine.Offends`: what is reported about the first arguments that are not accepted.

Main results:

- `parseWord32_eq_ok_iff`: which numbers are read.
- `CommandLine.MeantBy.set`: one more pair.
- `CommandLine.parsePairs_eq_ok_iff`, `CommandLine.parsePairs_eq_error_iff`: all pairs.
- `CommandLine.parse_and_apply`: which command lines are understood, and what they replace.
-/

namespace ModelPreview

open Json (Digit natOfDigits)

/-! ## Numbers -/

/-- A text stands for a word: digits, possibly after a plus sign, with the value of the word. -/
def SpellsWord (s : String) (n : UInt32) : Prop :=
  ∃ ds : List Digit, ds ≠ [] ∧ natOfDigits ds = n.toNat ∧
    (s.toList = ds.map Digit.char ∨ s.toList = '+' :: ds.map Digit.char)

/-- Reading on never makes a number smaller. -/
theorem le_foldl_digits (ds : List Digit) (n : Nat) :
    n ≤ ds.foldl (fun n d => 10 * n + d.val) n := by
  induction ds generalizing n with
  | nil => exact le_rfl
  | cons d ds ih => exact le_trans (by omega) (ih (10 * n + d.val))

/-- Only digits are read, and only as long as the number fits. -/
theorem parseDigits_eq_ok_iff {n v : Nat} {cs : List Char} (hn : n < 2 ^ 32) :
    parseDigits n cs = .ok v ↔ ∃ ds : List Digit, cs = ds.map Digit.char ∧
      v = ds.foldl (fun n d => 10 * n + d.val) n ∧ v < 2 ^ 32 := by
  induction cs generalizing n with
  | nil =>
    simp only [parseDigits, Except.ok.injEq]
    constructor
    · rintro rfl
      exact ⟨[], rfl, rfl, hn⟩
    · rintro ⟨ds, hds, rfl, -⟩
      rw [List.map_eq_nil_iff.1 hds.symm]
      rfl
  | cons c cs ih =>
    have hsplit : (∃ ds : List Digit, c :: cs = ds.map Digit.char ∧
          v = ds.foldl (fun n d => 10 * n + d.val) n ∧ v < 2 ^ 32) ↔
        ∃ (d : Digit) (ds : List Digit), c = d.char ∧ cs = ds.map Digit.char ∧
          v = ds.foldl (fun n d => 10 * n + d.val) (10 * n + d.val) ∧ v < 2 ^ 32 := by
      constructor
      · rintro ⟨ds, hds, hv, hlt⟩
        obtain ⟨d, ds, rfl, hc, hcs⟩ := List.map_eq_cons_iff.1 hds.symm
        exact ⟨d, ds, hc.symm, hcs.symm, hv, hlt⟩
      · rintro ⟨d, ds, rfl, rfl, hv, hlt⟩
        exact ⟨d :: ds, rfl, hv, hlt⟩
    rw [hsplit, parseDigits]
    cases hdigit : Json.digit? c with
    | none =>
      refine iff_of_false nofun ?_
      rintro ⟨d, -, rfl, -⟩
      rw [Json.digit?_char] at hdigit
      cases hdigit
    | some d =>
      obtain rfl := Json.eq_char_of_digit? hdigit
      have hsame : ∀ d' : Digit, d.char = d'.char ↔ d = d' := by
        intro d'
        constructor
        · intro h
          exact Option.some.inj ((Json.digit?_char d).symm.trans (h ▸ Json.digit?_char d'))
        · exact congrArg Digit.char
      simp only [hsame, exists_eq_left', exists_and_left]
      by_cases hfit : 10 * n + d.val < 0x100000000
      · rw [if_pos hfit, ih hfit]
      · rw [if_neg hfit]
        refine iff_of_false nofun ?_
        rintro ⟨ds, -, rfl, hlt⟩
        have := le_foldl_digits ds (10 * n + d.val)
        omega

/-- A word and the digits it is read from. -/
theorem ofNat_parseDigits_eq_ok_iff {cs : List Char} {n : UInt32} :
    UInt32.ofNat <$> parseDigits 0 cs = .ok n ↔
      ∃ ds : List Digit, natOfDigits ds = n.toNat ∧ cs = ds.map Digit.char := by
  have hread (v : Nat) := @parseDigits_eq_ok_iff 0 v cs (Nat.two_pow_pos 32)
  cases hdigits : parseDigits 0 cs with
  | error e =>
    refine iff_of_false nofun ?_
    rintro ⟨ds, hvalue, hcs⟩
    have hok := (hread n.toNat).2 ⟨ds, hcs, hvalue.symm, n.toNat_lt⟩
    rw [hdigits] at hok
    cases hok
  | ok v =>
    obtain ⟨ds, hcs, hv, hlt⟩ := (hread v).1 hdigits
    change Except.ok (UInt32.ofNat v) = .ok n ↔ _
    rw [Except.ok.injEq]
    constructor
    · rintro rfl
      refine ⟨ds, ?_, hcs⟩
      rw [UInt32.toNat_ofNat_of_lt' hlt]
      exact hv.symm
    · rintro ⟨ds', hvalue, hcs'⟩
      have hsame := (hread n.toNat).2 ⟨ds', hcs', hvalue.symm, n.toNat_lt⟩
      rw [hdigits, Except.ok.injEq] at hsame
      rw [hsame, UInt32.ofNat_toNat]

/-- A number does not begin with a plus sign after the one in front. -/
theorem map_char_ne_plus (ds : List Digit) (cs : List Char) : ds.map Digit.char ≠ '+' :: cs := by
  intro h
  obtain ⟨d, -, -, hd, -⟩ := List.map_eq_cons_iff.1 h
  revert d
  decide

/-- The numbers that are read are those with digits only, after at most one plus sign, whose value
fits into a word. -/
theorem parseWord32_eq_ok_iff {s : String} {n : UInt32} :
    parseWord32 s = .ok n ↔ SpellsWord s n := by
  unfold parseWord32 SpellsWord
  split
  · rename_i hs
    simp [hs]
  · rename_i hs
    refine iff_of_false nofun ?_
    rintro ⟨ds, hne, -, hcs | hcs⟩
    · exact map_char_ne_plus ds [] (hcs.symm.trans hs)
    · rw [hs, List.cons.injEq] at hcs
      exact hne (List.map_eq_nil_iff.1 hcs.2.symm)
  · rename_i cs hcs hs
    rw [ofNat_parseDigits_eq_ok_iff]
    constructor
    · rintro ⟨ds, hvalue, rfl⟩
      refine ⟨ds, ?_, hvalue, .inr hs⟩
      rintro rfl
      exact hcs rfl
    · rintro ⟨ds, -, hvalue, hds | hds⟩
      · exact absurd (hds.symm.trans hs) (map_char_ne_plus ds cs)
      · rw [hs, List.cons.injEq] at hds
        exact ⟨ds, hvalue, hds.2⟩
  · rename_i hnil _ hplus
    rw [ofNat_parseDigits_eq_ok_iff]
    constructor
    · rintro ⟨ds, hvalue, hds⟩
      refine ⟨ds, ?_, hvalue, .inl hds⟩
      rintro rfl
      exact hnil hds
    · rintro ⟨ds, -, hvalue, hds | hds⟩
      · exact ⟨ds, hvalue, hds⟩
      · exact absurd hds (hplus _)

/-- A text stands for one word at most. -/
theorem SpellsWord.unique {s : String} {m n : UInt32} (hm : SpellsWord s m) (hn : SpellsWord s n) :
    m = n := by
  rw [← parseWord32_eq_ok_iff] at hm hn
  exact Except.ok.inj (hm.symm.trans hn)

/-! ## Pairs of flags and values -/

namespace CommandLine

/-- Pairs of flags and values as they stand on the command line. -/
def arguments (pairs : List (String × String)) : List String := pairs.flatMap fun p => [p.1, p.2]

/-- The flags. -/
def flags : List String := ["--workspace", "--config", "--width", "--height", "--model"]

/-- A flag with a value that it takes: the flag is known, and a size is a number. -/
structure Accepted (p : String × String) : Prop where
  flag : p.1 ∈ flags
  number : p.1 = "--width" ∨ p.1 = "--height" → ∃ n, SpellsWord p.2 n

/-- The values that are given for a flag, in order. -/
def valuesOf (flag : String) (pairs : List (String × String)) : List String :=
  (pairs.filter (·.1 = flag)).map (·.2)

/-- What pairs ask for: the last value of each flag, and all models. -/
structure MeantBy (c : CommandLine) (pairs : List (String × String)) : Prop where
  workspace : c.workspace = (valuesOf "--workspace" pairs).getLast?
  config : c.config = (valuesOf "--config" pairs).getLast?
  width : ∀ n, c.overrides.width = some n ↔
    ∃ value, (valuesOf "--width" pairs).getLast? = some value ∧ SpellsWord value n
  height : ∀ n, c.overrides.height = some n ↔
    ∃ value, (valuesOf "--height" pairs).getLast? = some value ∧ SpellsWord value n
  documents : c.overrides.documents = valuesOf "--model" pairs

/-- What is reported about arguments whose first ones are not accepted: the first one is no flag, or
it is the last one, or it is not known, or its value is no number. -/
inductive Offends : List String → CommandLineError → Prop where
  /-- No flag, whatever follows. -/
  | unexpected {argument : String} {rest : List String}
    (hflag : ∀ name, argument ≠ "--" ++ name) : Offends (argument :: rest) (.unexpected argument)
  /-- A flag at the end, whether it is known or not. -/
  | missingValue (name : String) : Offends ["--" ++ name] (.missingValue ("--" ++ name))
  /-- A flag that is not known. -/
  | unknownFlag {name value : String} {rest : List String} (hflag : "--" ++ name ∉ flags) :
    Offends (("--" ++ name) :: value :: rest) (.unknownFlag ("--" ++ name))
  /-- A width that is no number. -/
  | badWidth {value : String} {rest : List String} {cause : NumberError}
    (hvalue : ∀ n, ¬ SpellsWord value n) (hcause : parseWord32 value = .error cause) :
    Offends ("--width" :: value :: rest) (.badNumber "width" value cause)
  /-- A height that is no number. -/
  | badHeight {value : String} {rest : List String} {cause : NumberError}
    (hvalue : ∀ n, ¬ SpellsWord value n) (hcause : parseWord32 value = .error cause) :
    Offends ("--height" :: value :: rest) (.badNumber "height" value cause)

theorem isFlag_iff {argument : String} :
    isFlag argument = true ↔ ∃ name, argument = "--" ++ name := by
  rw [isFlag, List.isPrefixOf_iff_prefix]
  constructor
  · rintro ⟨cs, hcs⟩
    refine ⟨String.ofList cs, ?_⟩
    rw [← String.toList_inj, ← hcs]
    simp
  · rintro ⟨name, rfl⟩
    exact ⟨name.toList, by simp⟩

theorem valuesOf_append (flag : String) (pairs : List (String × String)) (p : String × String) :
    valuesOf flag (pairs ++ [p]) =
      if p.1 = flag then valuesOf flag pairs ++ [p.2] else valuesOf flag pairs := by
  unfold valuesOf
  rw [List.filter_append, List.map_append]
  split <;> simp_all

theorem meantBy_nil : MeantBy {} [] where
  workspace := rfl
  config := rfl
  width _ := ⟨nofun, nofun⟩
  height _ := ⟨nofun, nofun⟩
  documents := rfl

variable {c c' : CommandLine} {done : List (String × String)}

/-- Pairs ask for one thing only. -/
theorem MeantBy.unique (h : c.MeantBy done) (h' : c'.MeantBy done) : c = c' := by
  obtain ⟨workspace, config, width, height, documents⟩ := c
  obtain ⟨workspace', config', width', height', documents'⟩ := c'
  have hworkspace : workspace = workspace' := h.workspace.trans h'.workspace.symm
  have hconfig : config = config' := h.config.trans h'.config.symm
  have hwidth : width = width' := Option.ext fun n => (h.width n).trans (h'.width n).symm
  have hheight : height = height' := Option.ext fun n => (h.height n).trans (h'.height n).symm
  have hdocuments : documents = documents' := h.documents.trans h'.documents.symm
  rw [hworkspace, hconfig, hwidth, hheight, hdocuments]

/-! ## One pair -/

theorem size_eq_ok_iff {what value : String} {n : UInt32} :
    size what value = .ok n ↔ SpellsWord value n := by
  rw [← parseWord32_eq_ok_iff, size]
  cases parseWord32 value <;> simp [Except.mapError]

theorem size_eq_error_iff {what value : String} {e : CommandLineError} :
    size what value = .error e ↔
      ∃ cause, parseWord32 value = .error cause ∧ e = .badNumber what value cause := by
  rw [size]
  cases parseWord32 value <;> simp [Except.mapError, eq_comm]

/-- What pairs ask for after one more of them, which has to be accepted. -/
theorem MeantBy.set (h : c.MeantBy done) {flag value : String}
    (hset : c.set flag value = .ok c') :
    Accepted (flag, value) ∧ c'.MeantBy (done ++ [(flag, value)]) := by
  unfold CommandLine.set at hset
  split at hset
  case h_1 =>
    cases hset
    refine ⟨⟨by simp [flags], by simp⟩, ?_⟩
    constructor <;> simp [valuesOf_append, h.config, h.width, h.height, h.documents]
  case h_2 =>
    cases hset
    refine ⟨⟨by simp [flags], by simp⟩, ?_⟩
    constructor <;> simp [valuesOf_append, h.workspace, h.width, h.height, h.documents]
  case h_3 =>
    obtain ⟨n, hsize, hset⟩ := bind_eq_ok_iff.1 hset
    cases hset
    have hspells := size_eq_ok_iff.1 hsize
    refine ⟨⟨by simp [flags], fun _ => ⟨n, hspells⟩⟩, ?_⟩
    constructor <;> simp [valuesOf_append, h.workspace, h.config, h.height, h.documents]
    exact fun m => ⟨fun hm => hm ▸ hspells, hspells.unique⟩
  case h_4 =>
    obtain ⟨n, hsize, hset⟩ := bind_eq_ok_iff.1 hset
    cases hset
    have hspells := size_eq_ok_iff.1 hsize
    refine ⟨⟨by simp [flags], fun _ => ⟨n, hspells⟩⟩, ?_⟩
    constructor <;> simp [valuesOf_append, h.workspace, h.config, h.width, h.documents]
    exact fun m => ⟨fun hm => hm ▸ hspells, hspells.unique⟩
  case h_5 =>
    cases hset
    refine ⟨⟨by simp [flags], by simp⟩, ?_⟩
    constructor <;> simp [valuesOf_append, h.workspace, h.config, h.width, h.height, h.documents]
  case h_6 => cases hset

/-- A pair that is accepted is taken note of. -/
theorem Accepted.set {flag value : String} (h : Accepted (flag, value)) (c : CommandLine) :
    ∃ c', c.set flag value = .ok c' := by
  have hflag : flag ∈ flags := h.flag
  have hsize (what : String) (hnumber : flag = "--width" ∨ flag = "--height") :
      ∃ n, size what value = .ok n :=
    (h.number hnumber).imp fun n => size_eq_ok_iff.2
  simp only [flags, List.mem_cons, List.not_mem_nil, or_false] at hflag
  obtain rfl | rfl | rfl | rfl | rfl := hflag
  case inr.inr.inl =>
    obtain ⟨n, hn⟩ := hsize "width" (.inl rfl)
    exact ⟨_, bind_eq_ok_iff.2 ⟨n, hn, rfl⟩⟩
  case inr.inr.inr.inl =>
    obtain ⟨n, hn⟩ := hsize "height" (.inr rfl)
    exact ⟨_, bind_eq_ok_iff.2 ⟨n, hn, rfl⟩⟩
  all_goals exact ⟨_, rfl⟩

/-! ## All pairs -/

theorem arguments_cons (p : String × String) (pairs : List (String × String)) (rest : List String) :
    arguments (p :: pairs) ++ rest = p.1 :: p.2 :: (arguments pairs ++ rest) := rfl

theorem isFlag_of_mem_flags {flag : String} (h : flag ∈ flags) : isFlag flag = true := by
  revert h
  revert flag
  decide

/-- Pairs in front that are accepted are read, and what they ask for is known from then on. -/
theorem parsePairs_arguments_append {pairs : List (String × String)} (h : c.MeantBy done)
    (haccepted : ∀ p ∈ pairs, Accepted p) :
    ∃ c', c'.MeantBy (done ++ pairs) ∧
      ∀ rest, parsePairs c (arguments pairs ++ rest) = parsePairs c' rest := by
  induction pairs generalizing c done with
  | nil => exact ⟨c, by rwa [List.append_nil], fun rest => rfl⟩
  | cons p pairs ih =>
    obtain ⟨hp, hpairs⟩ := List.forall_mem_cons.1 haccepted
    obtain ⟨c₁, hset⟩ := hp.set c
    obtain ⟨c', hmeant, hrest⟩ := ih (h.set hset).2 hpairs
    rw [List.append_assoc] at hmeant
    refine ⟨c', hmeant, fun rest => ?_⟩
    rw [← hrest, arguments_cons, parsePairs, if_pos (isFlag_of_mem_flags hp.flag), hset]
    rfl

/-- Arguments that are not accepted are reported. -/
theorem Offends.parsePairs {args : List String} {e : CommandLineError} (h : Offends args e)
    (c : CommandLine) : c.parsePairs args = .error e := by
  cases h with
  | @unexpected argument rest hflag =>
    have hno : ¬ isFlag argument = true := fun hyes =>
      let ⟨name, hname⟩ := isFlag_iff.1 hyes
      hflag name hname
    cases rest with
    | nil => rw [CommandLine.parsePairs, if_neg hno]
    | cons value rest => rw [CommandLine.parsePairs, if_neg hno]
  | missingValue name => rw [CommandLine.parsePairs, if_pos (isFlag_iff.2 ⟨name, rfl⟩)]
  | @unknownFlag name value rest hflag =>
    have hset : c.set ("--" ++ name) value = .error (.unknownFlag ("--" ++ name)) := by
      unfold CommandLine.set
      split
      case h_6 => rfl
      all_goals
        rename_i hname
        exact absurd (hname ▸ by decide) hflag
    rw [CommandLine.parsePairs, if_pos (isFlag_iff.2 ⟨name, rfl⟩), hset]
    rfl
  | badWidth hvalue hcause =>
    have hsize : size "width" _ = .error _ := size_eq_error_iff.2 ⟨_, hcause, rfl⟩
    rw [CommandLine.parsePairs, if_pos (by decide)]
    simp only [CommandLine.set, hsize]
    rfl
  | badHeight hvalue hcause =>
    have hsize : size "height" _ = .error _ := size_eq_error_iff.2 ⟨_, hcause, rfl⟩
    rw [CommandLine.parsePairs, if_pos (by decide)]
    simp only [CommandLine.set, hsize]
    rfl

/-- A flag that is known stands before a value it takes, or the two are reported. -/
theorem accepted_or_offends {flag : String} (hflag : flag ∈ flags) (value : String)
    (rest : List String) : Accepted (flag, value) ∨ ∃ e, Offends (flag :: value :: rest) e := by
  by_cases hnumber : flag = "--width" ∨ flag = "--height" → ∃ n, SpellsWord value n
  · exact .inl ⟨hflag, hnumber⟩
  · push Not at hnumber
    obtain ⟨hsize, hvalue⟩ := hnumber
    cases hcause : parseWord32 value with
    | ok n => exact absurd (parseWord32_eq_ok_iff.1 hcause) (hvalue n)
    | error cause =>
      obtain rfl | rfl := hsize
      · exact .inr ⟨_, .badWidth hvalue hcause⟩
      · exact .inr ⟨_, .badHeight hvalue hcause⟩

/-- Arguments are pairs that are accepted, up to the first ones that are not. -/
theorem exists_arguments_append (args : List String) :
    ∃ pairs rest, args = arguments pairs ++ rest ∧ (∀ p ∈ pairs, Accepted p) ∧
      (rest = [] ∨ ∃ e, Offends rest e) := by
  have hunexpected {argument : String} (hno : ¬ isFlag argument = true) (rest : List String) :
      Offends (argument :: rest) (.unexpected argument) :=
    .unexpected fun name hname => hno (isFlag_iff.2 ⟨name, hname⟩)
  match args with
  | [] => exact ⟨[], [], rfl, nofun, .inl rfl⟩
  | [flag] =>
    refine ⟨[], [flag], rfl, nofun, .inr ?_⟩
    by_cases hyes : isFlag flag = true
    · obtain ⟨name, rfl⟩ := isFlag_iff.1 hyes
      exact ⟨_, .missingValue name⟩
    · exact ⟨_, hunexpected hyes []⟩
  | flag :: value :: rest =>
    have hhere (h : ∃ e, Offends (flag :: value :: rest) e) :
        ∃ pairs rest', flag :: value :: rest = arguments pairs ++ rest' ∧
          (∀ p ∈ pairs, Accepted p) ∧ (rest' = [] ∨ ∃ e, Offends rest' e) :=
      ⟨[], _, rfl, nofun, .inr h⟩
    by_cases hyes : isFlag flag = true
    · by_cases hflag : flag ∈ flags
      · obtain haccepted | hoffends := accepted_or_offends hflag value rest
        · obtain ⟨pairs, rest', rfl, hpairs, hrest⟩ := exists_arguments_append rest
          exact ⟨(flag, value) :: pairs, rest', rfl,
            List.forall_mem_cons.2 ⟨haccepted, hpairs⟩, hrest⟩
        · exact hhere hoffends
      · obtain ⟨name, rfl⟩ := isFlag_iff.1 hyes
        exact hhere ⟨_, .unknownFlag hflag⟩
    · exact hhere ⟨_, hunexpected hyes _⟩

/-- Arguments are understood exactly if they are pairs that are accepted, and then they mean what the
pairs ask for. -/
theorem parsePairs_eq_ok_iff (h : c.MeantBy done) {args : List String} :
    parsePairs c args = .ok c' ↔
      ∃ pairs, args = arguments pairs ∧ (∀ p ∈ pairs, Accepted p) ∧ c'.MeantBy (done ++ pairs) := by
  constructor
  · intro hparse
    obtain ⟨pairs, rest, rfl, haccepted, hrest⟩ := exists_arguments_append args
    obtain ⟨c₁, hmeant, hread⟩ := parsePairs_arguments_append h haccepted
    rw [hread] at hparse
    obtain rfl | ⟨e, hoffends⟩ := hrest
    · cases hparse
      exact ⟨pairs, List.append_nil _, haccepted, hmeant⟩
    · rw [hoffends.parsePairs] at hparse
      cases hparse
  · rintro ⟨pairs, rfl, haccepted, hmeant⟩
    obtain ⟨c₁, hmeant₁, hread⟩ := parsePairs_arguments_append h haccepted
    rw [← List.append_nil (arguments pairs), hread, hmeant.unique hmeant₁]
    rfl

/-- An error is about the first arguments that are not accepted. -/
theorem parsePairs_eq_error_iff (h : c.MeantBy done) {args : List String} {e : CommandLineError} :
    parsePairs c args = .error e ↔
      ∃ pairs rest, args = arguments pairs ++ rest ∧ (∀ p ∈ pairs, Accepted p) ∧
        Offends rest e := by
  constructor
  · intro hparse
    obtain ⟨pairs, rest, rfl, haccepted, hrest⟩ := exists_arguments_append args
    obtain ⟨c₁, -, hread⟩ := parsePairs_arguments_append h haccepted
    rw [hread] at hparse
    obtain rfl | ⟨e', hoffends⟩ := hrest
    · cases hparse
    · rw [hoffends.parsePairs, Except.error.injEq] at hparse
      exact ⟨pairs, rest, rfl, haccepted, hparse ▸ hoffends⟩
  · rintro ⟨pairs, rest, rfl, haccepted, hoffends⟩
    obtain ⟨c₁, -, hread⟩ := parsePairs_arguments_append h haccepted
    rw [hread, hoffends.parsePairs]

end CommandLine

/-! ## Values that replace those of the file -/

/-- What values of the command line replace in a configuration, and nothing else: a size that is
given, raised to one, and the documents, if there are any. -/
structure Config.Replaces (before : Config) (o : Overrides) (after : Config) : Prop where
  title : after.window.title = before.window.title
  clearColor : after.clearColor = before.clearColor
  width : after.window.width = match o.width with
    | some width => max 1 width
    | none => before.window.width
  height : after.window.height = match o.height with
    | some height => max 1 height
    | none => before.window.height
  documents : after.documents = if o.documents = [] then before.documents else o.documents

theorem Config.replaces_apply (c : Config) (o : Overrides) : c.Replaces o (c.apply o) where
  title := rfl
  clearColor := rfl
  width := by cases hwidth : o.width <;> simp [Config.apply, hwidth]
  height := by cases hheight : o.height <;> simp [Config.apply, hheight]
  documents := by simp [Config.apply]

theorem Config.apply_apply (c : Config) (o : Overrides) : (c.apply o).apply o = c.apply o := by
  obtain ⟨width, height, documents⟩ := o
  cases width <;> cases height <;> cases documents <;> rfl

/-- The command line is understood exactly if the arguments behind the first are pairs of a flag and
a value it takes; then the last value of each flag counts, and all models.  Otherwise the error is
about the first pair that is not accepted.  The values replace those of a configuration, once and for
all. -/
theorem CommandLine.parse_and_apply (args : List String) :
    (∀ s n, parseWord32 s = .ok n ↔ SpellsWord s n) ∧
    (∀ c, parse args = .ok c ↔ ∃ pairs, args.drop 1 = arguments pairs ∧
      (∀ p ∈ pairs, Accepted p) ∧ c.MeantBy pairs) ∧
    (∀ e, parse args = .error e ↔ ∃ pairs rest, args.drop 1 = arguments pairs ++ rest ∧
      (∀ p ∈ pairs, Accepted p) ∧ Offends rest e) ∧
    ∀ (config : Config) (o : Overrides),
      config.Replaces o (config.apply o) ∧ (config.apply o).apply o = config.apply o :=
  ⟨fun _ _ => parseWord32_eq_ok_iff, fun _ => parsePairs_eq_ok_iff meantBy_nil,
    fun _ => parsePairs_eq_error_iff meantBy_nil,
    fun config o => ⟨config.replaces_apply o, config.apply_apply o⟩⟩

/-- A value may have the form of a flag. -/
example : CommandLine.parse ["viewer", "--width", "4", "--model", "--width", "--width", "+07"] =
    .ok { overrides := { width := some 7, documents := ["--width"] } } := by
  decide

end ModelPreview
