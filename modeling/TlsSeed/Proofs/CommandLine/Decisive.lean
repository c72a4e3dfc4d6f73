import TlsSeed.CommandLine.Message
import TlsSeed.Proofs.CommandLine.Grammar
import TlsSeed.Proofs.Text.Parts

/-! # What further arguments change

The scan never takes back what an argument has decided. A missing operand, and one that is not
allowed, may come to light only when no argument is left, and these are the answers that further
arguments can change. The name of the program is no argument, and shows in the usage line alone.
-/

namespace TlsSeed.CommandLine

open Text

/-- The kinds of halts that an argument decides, whatever follows it. -/
def Halt.Kind.isDecisive : Halt.Kind → Bool
  | help | version | unknownArgument | tooManyValues => true
  | notText | invalidValue | missingOperands => false

section

variable {seen xs ys argv : List Bytes} {h : Halt}

/-! ## Answers that stand -/

theorem isDecisive_of_check {o : Operand} {arg : Bytes} (hc : check o arg = .error h) :
    h.kind.isDecisive = false := by
  cases o <;> simp only [check] at hc <;> split_ifs at hc <;> cases hc <;> rfl

theorem isDecisive_of_checkLast (hc : checkLast seen = .error h) : h.kind.isDecisive = false := by
  unfold checkLast at hc
  split at hc
  · exact isDecisive_of_check hc
  · exact isDecisive_of_check hc
  · exact isDecisive_of_check hc
  · exact nomatch hc

/-- Nothing that decides is found at the end of the arguments. -/
theorem isDecisive_of_finish (hf : finish seen = .error h) : h.kind.isDecisive = false := by
  unfold finish at hf
  cases hc : checkLast seen with
  | error e =>
    rw [hc] at hf
    cases hf
    exact isDecisive_of_checkLast hc
  | ok u =>
    rw [hc] at hf
    dsimp only [bind, Except.bind] at hf
    split at hf
    · exact nomatch hf
    · cases hf
      rfl

theorem operands_append (hr : operands seen xs = .error h) (hd : h.kind.isDecisive = true)
    (ys : List Bytes) : operands seen (xs ++ ys) = .error h := by
  induction xs generalizing seen with
  | nil => exact absurd hd (by simp [isDecisive_of_finish hr])
  | cons arg xs ih =>
    rw [List.cons_append, operands]
    rw [operands] at hr
    cases hb : beginWith seen arg with
    | error e => rwa [hb] at hr
    | ok seen' =>
      rw [hb] at hr
      exact ih hr

/-- A scan that is decided within some arguments is decided in the same way when more follow. -/
theorem arguments_append (hr : arguments seen xs = .error h) (hd : h.kind.isDecisive = true)
    (ys : List Bytes) : arguments seen (xs ++ ys) = .error h := by
  induction xs generalizing seen with
  | nil => exact absurd hd (by simp [isDecisive_of_finish hr])
  | cons arg xs ih =>
    rw [List.cons_append, arguments]
    rw [arguments] at hr
    split
    · next hs =>
      rw [if_pos hs] at hr
      exact operands_append hr hd ys
    · next hs =>
      rw [if_neg hs] at hr
      cases hf : Flag.ofArgument? arg with
      | some f => rwa [hf] at hr
      | none =>
        simp only [hf] at hr ⊢
        cases hb : beginWith seen arg with
        | error e => rwa [hb] at hr
        | ok seen' =>
          rw [hb] at hr
          exact ih hr

theorem parse_append (hp : parse argv = .error h) (hd : h.kind.isDecisive = true)
    (ys : List Bytes) : parse (argv ++ ys) = .error h := by
  cases argv with
  | nil => exact absurd hd (by simp [isDecisive_of_finish hp])
  | cons p xs => exact arguments_append hp hd ys

theorem programName_append (hn : argv ≠ []) (ys : List Bytes) :
    programName (argv ++ ys) = programName argv := by
  obtain ⟨p, xs, rfl⟩ := List.exists_cons_of_ne_nil hn
  rfl

/-! ## Answers that may change -/

theorem flag?_append_of_notMem (hs : Flag.separator ∉ xs) (ys : List Bytes) :
    flag? (xs ++ ys) = (flag? xs).or (flag? ys) := by
  have hx : xs.takeWhile (· != Flag.separator) = xs :=
    List.takeWhile_eq_self_iff.mpr (bne_of_notMem hs)
  rw [flag?_eq, flag?_eq, flag?_eq, List.takeWhile_append_of_pos (bne_of_notMem hs),
    List.find?_append, hx]

theorem positionals_of_flag?_eq_none (hf : flag? xs = none) :
    positionals xs = xs.erase Flag.separator := by
  rw [positionals_eq, hf]

/-- The program is called with the operands. -/
theorem parse_cons_eq_ok_iff {p : Bytes} {i : Invocation} : parse (p :: xs) = .ok i ↔
    flag? xs = none ∧ positionals xs = [Utf8.encode i.hostname, i.certFile, i.keyFile] ∧
      i.certFile ≠ [] ∧ i.keyFile ≠ [] := by
  have hp : parse (p :: xs) = verdict (positionals xs) ((flag? xs).map Flag.ofForm) :=
    arguments_eq rfl xs
  rw [hp, verdict_eq_ok_iff, Option.map_eq_none_iff]

theorem Invocation.eq_of_operands {i j : Invocation}
    (h : [Utf8.encode i.hostname, i.certFile, i.keyFile] =
      [Utf8.encode j.hostname, j.certFile, j.keyFile]) : i = j := by
  obtain ⟨hh, hc, hk, -⟩ := by simpa only [List.cons.injEq] using h
  rw [Invocation.mk.injEq]
  exact ⟨Utf8.encode_injective hh, hc, hk⟩

/-- An accepted command line can be followed by a first separator and by nothing else. -/
theorem parse_append_eq_ok_iff {i j : Invocation} (hp : parse argv = .ok i) (hy : ys ≠ []) :
    parse (argv ++ ys) = .ok j ↔
      ys = [Flag.separator] ∧ Flag.separator ∉ argv.drop 1 ∧ j = i := by
  cases argv with
  | nil => exact nomatch hp
  | cons p xs =>
    obtain ⟨hf, ho, hc, hk⟩ := parse_cons_eq_ok_iff.mp hp
    rw [positionals_of_flag?_eq_none hf] at ho
    rw [List.cons_append, parse_cons_eq_ok_iff, List.drop_one, List.tail_cons]
    constructor
    · rintro ⟨hf', ho', -⟩
      rw [positionals_of_flag?_eq_none hf'] at ho'
      have hl := congrArg List.length ho'
      by_cases hs : Flag.separator ∈ xs
      · -- Behind the separator everything is an operand, and there are three already.
        rw [List.erase_append_left _ hs, ho] at hl
        simp [hy] at hl
      · rw [List.erase_of_not_mem hs] at ho
        rw [List.erase_append_right _ hs, ho] at ho' hl
        have hn : ys.erase Flag.separator = [] := by simpa using hl
        rw [hn, List.append_nil] at ho'
        exact ⟨(List.erase_eq_nil_iff.mp hn).resolve_left hy, hs,
          (Invocation.eq_of_operands ho').symm⟩
    · rintro ⟨rfl, hs, rfl⟩
      have hf' : flag? (xs ++ [Flag.separator]) = none := by
        rw [flag?_append_of_notMem hs, hf, flag?_separator, Option.none_or]
      refine ⟨hf', ?_, hc, hk⟩
      rw [List.erase_of_not_mem hs] at ho
      rw [positionals_of_flag?_eq_none hf', List.erase_append_right _ hs, List.erase_cons_head,
        List.append_nil, ho]

end

/-! ## The name of the program -/

theorem usageLine_eq (flag : Option Known) (crowded : Bool) : ∃ rest, ∀ program,
    usageLine program flag crowded =
      "Usage: " ++ ControlSequence.shown program ++ " " ++ rest := by
  let names := (flag.map Known.long).toList ++
    if crowded then ["<" ++ "|".intercalate (Operand.all.map Operand.name) ++ ">"]
    else Operand.all.map Operand.label
  have hn : names ≠ [] := by
    cases crowded <;> simp [names, Operand.all]
  have hw : "Usage: " = "Usage:" ++ " " := rfl
  refine ⟨" ".intercalate names, fun program => ?_⟩
  rw [usageLine, List.append_assoc, String.intercalate_append_of_ne_nil (by simp) hn,
    String.intercalate_cons_cons, String.intercalate_singleton, hw]

theorem helpText_eq (inFull : Bool) : ∃ before after, EndsWith before "\n" ∧ ∀ program,
    helpText program inFull = before ++ usageLine program none false ++ after := by
  let arrange := if inFull then longSection else shortSection
  refine ⟨(if inFull then description else summary) ++ "\n\n",
    "\n\n" ++ (arrange "Arguments" (Operand.all.map fun o => (o.label, o.purpose)) ++
      ("\n" ++ arrange "Options" (Known.all.map fun k => (k.label, k.purpose inFull)))),
    .trans ⟨_, rfl⟩ ⟨"\n", rfl⟩, fun program => ?_⟩
  simp only [helpText, String.intercalate_cons_cons, String.intercalate_singleton,
    String.append_assoc, arrange]

theorem message_eq {e : UsageError} (he : ∀ o, e ≠ .emptyValue o) :
    ∃ before flag crowded after, EndsWith before "\n" ∧ ∀ program,
      e.message program = before ++ usageLine program flag crowded ++ after := by
  cases e with
  | unknownFlag name similar =>
    cases similar with
    | none => exact ⟨_, _, _, _, .trans ⟨_, rfl⟩ ⟨"'\n", rfl⟩, fun _ => rfl⟩
    | some k => exact ⟨_, _, _, _, .trans ⟨_, rfl⟩ ⟨"'\n", rfl⟩, fun _ => rfl⟩
  | unexpectedValue k value crowded =>
    have hb : EndsWith "' found; no more were expected\n\n" "\n" :=
      ⟨"' found; no more were expected\n", rfl⟩
    exact ⟨_, _, _, _, .trans ⟨_, rfl⟩ hb, fun _ => rfl⟩
  | unexpectedOperand argument =>
    exact ⟨_, _, _, _, .trans ⟨_, rfl⟩ ⟨"' found\n", rfl⟩, fun _ => rfl⟩
  | notText =>
    have hb : EndsWith "error: invalid UTF-8 was detected in one or more arguments\n\n" "\n" :=
      ⟨"error: invalid UTF-8 was detected in one or more arguments\n", rfl⟩
    exact ⟨_, _, _, _, hb, fun _ => rfl⟩
  | emptyValue o => exact absurd rfl (he o)
  | missing os => exact ⟨_, _, _, _, ⟨_, rfl⟩, fun _ => rfl⟩

namespace Halt

/-- The halts under which a usage line is shown. -/
def showsUsage : Halt → Bool
  | version | usage (.emptyValue _) => false
  | _ => true

variable {h : Halt}

theorem text_eq (hs : h.showsUsage = true) : ∃ before after, EndsWith before "\n" ∧ ∀ program,
    h.text program = before ++ "Usage: " ++ ControlSequence.shown program ++ " " ++ after := by
  obtain ⟨before, flag, crowded, after, hb, ht⟩ : ∃ before flag crowded after,
      EndsWith before "\n" ∧ ∀ program,
        h.text program = before ++ usageLine program flag crowded ++ after := by
    cases h with
    | version => exact nomatch hs
    | help inFull =>
      obtain ⟨before, after, hb, ht⟩ := helpText_eq inFull
      exact ⟨before, none, false, after, hb, ht⟩
    | usage e =>
      refine message_eq ?_
      rintro o rfl
      exact nomatch hs
  obtain ⟨rest, hr⟩ := usageLine_eq flag crowded
  refine ⟨before, rest ++ after, hb, fun program => ?_⟩
  rw [ht, hr]
  simp only [String.append_assoc]

theorem notice_eq (hs : h.showsUsage = false) :
    (h.kind = .version ∨ h.kind = .invalidValue) ∧
      ∀ argv argv', h.notice argv = h.notice argv' := by
  cases h with
  | version => exact ⟨.inl rfl, fun _ _ => rfl⟩
  | help inFull => exact nomatch hs
  | usage e =>
    cases e with
    | emptyValue o => exact ⟨.inr rfl, fun _ _ => rfl⟩
    | _ => exact nomatch hs

end Halt

section

variable {argv xs : List Bytes} {i : Invocation} {n : Notice} {h : Halt}

theorem answer_of_error (hp : parse argv = .error h) : answer argv = .error (h.notice argv) := by
  rw [answer, hp]
  rfl

theorem answer_eq_error_iff :
    answer argv = .error n ↔ ∃ h, parse argv = .error h ∧ h.notice argv = n := by
  rw [answer]
  cases parse argv <;> simp [Except.mapError]

theorem answer_eq_ok_iff : answer argv = .ok i ↔ parse argv = .ok i := by
  rw [answer]
  cases parse argv <;> simp [Except.mapError]

/-- What the name of the program has to do with an answer. -/
theorem answer_cons (xs : List Bytes) :
    (∃ i, ∀ p, answer (p :: xs) = .ok i) ∨
    (∃ n, (n.kind = .version ∨ n.kind = .invalidValue) ∧ ∀ p, answer (p :: xs) = .error n) ∨
    ∃ kind exitCode before after, EndsWith before "\n" ∧ ∀ p, answer (p :: xs) =
      .error ⟨kind, exitCode, before ++ "Usage: " ++
        ControlSequence.shown (programName [p]) ++ " " ++ after⟩ := by
  cases hp : arguments [] xs with
  | ok i => exact .inl ⟨i, fun p => answer_eq_ok_iff.mpr hp⟩
  | error h =>
    have ha (p : Bytes) : answer (p :: xs) = .error (h.notice (p :: xs)) := answer_of_error hp
    right
    cases hs : h.showsUsage with
    | false =>
      obtain ⟨hk, hn⟩ := Halt.notice_eq hs
      exact .inl ⟨h.notice [], hk, fun p => by rw [ha, hn]⟩
    | true =>
      obtain ⟨before, after, hb, ht⟩ := Halt.text_eq hs
      exact .inr ⟨h.kind, h.exitCode, before, after, hb, fun p => by rw [ha, Halt.notice, ht]; rfl⟩

end

/-- The first argument that decides is the last that matters. An answer that such an argument gives
stays the same, to the last character of its message, whatever arguments follow. An accepted command
line stays accepted only if a first separator follows, and asks for the same then. The name of the
program changes nothing but itself in the usage line. -/
theorem decisive_argument_decides :
    (∀ argv n, answer argv = .error n → n.kind.isDecisive = true →
      ∀ ys, answer (argv ++ ys) = .error n) ∧
    (∀ argv i, answer argv = .ok i → ∀ ys, ys ≠ [] → ∀ j,
      answer (argv ++ ys) = .ok j ↔
        ys = [Flag.separator] ∧ Flag.separator ∉ argv.drop 1 ∧ j = i) ∧
    ∀ xs, (∃ i, ∀ p, answer (p :: xs) = .ok i) ∨
      (∃ n, (n.kind = .version ∨ n.kind = .invalidValue) ∧ ∀ p, answer (p :: xs) = .error n) ∨
      ∃ kind exitCode before after, EndsWith before "\n" ∧ ∀ p, answer (p :: xs) =
        .error ⟨kind, exitCode, before ++ "Usage: " ++
          ControlSequence.shown (programName [p]) ++ " " ++ after⟩ := by
  refine ⟨?_, ?_, answer_cons⟩
  · intro argv n ha hd ys
    obtain ⟨h, hp, rfl⟩ := answer_eq_error_iff.mp ha
    have hn : argv ≠ [] := by
      rintro rfl
      exact absurd hd (by simp [Halt.notice, isDecisive_of_finish hp])
    rw [answer_of_error (parse_append hp hd ys), Halt.notice, programName_append hn]
    rfl
  · intro argv i ha ys hy j
    rw [answer_eq_ok_iff] at ha ⊢
    exact parse_append_eq_ok_iff ha hy

theorem decisive_argument_decides_flag :
    let argv (args : List String) := ("seed" :: args).map Utf8.encode
    let i : Invocation := ⟨"a.test", Utf8.encode "c", Utf8.encode "k"⟩
    (∃ n, answer (argv ["a.test", "--help=x"]) = .error n ∧ n.kind = .tooManyValues ∧
      answer (argv ["a.test", "--help=x"] ++ [Utf8.encode "-V"]) = .error n) ∧
    answer (argv ["a.test", "c", "k"]) = .ok i ∧
    answer (argv ["a.test", "c", "k"] ++ [Flag.separator]) = .ok i ∧
    answer (argv ["a.test", "c", "--", "k"] ++ [Flag.separator]) ≠ .ok i := by
  intro argv i
  obtain ⟨hd, ho, -⟩ := decisive_argument_decides
  have hs : answer (argv ["a.test", "c", "k"]) = .ok i := rfl
  have hs' : answer (argv ["a.test", "c", "--", "k"]) = .ok i := rfl
  refine ⟨⟨_, rfl, rfl, hd _ _ rfl rfl _⟩, hs, ?_, ?_⟩
  · exact (ho _ i hs [Flag.separator] (List.cons_ne_nil _ _) i).mpr ⟨rfl, by decide, rfl⟩
  · intro h
    obtain ⟨-, hn, -⟩ := (ho _ i hs' [Flag.separator] (List.cons_ne_nil _ _) i).mp h
    exact hn (by decide)

end TlsSeed.CommandLine
