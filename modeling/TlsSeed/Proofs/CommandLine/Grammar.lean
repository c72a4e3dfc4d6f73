import TlsSeed.CommandLine.Parse
import TlsSeed.Proofs.CommandLine.Flag

/-! # The grammar of the command line

What a command line leads to depends on its first flag and on the operands, and on nothing else. The
rules that tell it stand in a fixed order, and the first that applies decides.
-/

namespace TlsSeed.CommandLine

open Text

/-- The first flag. The separator, which is `--`, hides those after it. -/
def flag? (xs : List Bytes) : Option Bytes :=
  (xs.takeWhile (· != [0x2D, 0x2D])).find? Flag.isFlag

/-- The operands: what stands in front of the first flag, or all but the first separator if there is
no flag. -/
def positionals (xs : List Bytes) : List Bytes :=
  match flag? xs with
  | some _ => xs.takeWhile (!Flag.isFlag ·)
  | none => xs.erase [0x2D, 0x2D]

/-- What is wrong with operands whatever follows them. -/
def early? (ps : List Bytes) : Option UsageError :=
  if 2 ≤ ps.length ∧ ¬ Utf8.IsText (ps.getD 0 []) then some .notText
  else if 3 ≤ ps.length ∧ ps.getD 1 [] = [] then some (.emptyValue .certFile)
  else if 4 ≤ ps.length then some (.unexpectedOperand (Utf8.lossy (ps.getD 3 [])))
  else none

/-- What is wrong with the last operand. -/
def late? (ps : List Bytes) : Option UsageError :=
  if ps.length = 1 ∧ ¬ Utf8.IsText (ps.getD 0 []) then some .notText
  else if ps.length = 2 ∧ ps.getD 1 [] = [] then some (.emptyValue .certFile)
  else if ps.length = 3 ∧ ps.getD 2 [] = [] then some (.emptyValue .keyFile)
  else none

/-- What operands and the first flag lead to. -/
def verdict (ps : List Bytes) (f : Option Flag) : Except Halt Invocation :=
  match early? ps, f, late? ps with
  | some e, _, _ => .error (.usage e)
  | none, some (.valued k value), _ =>
    .error (.usage (.unexpectedValue k (Utf8.lossy value) (2 ≤ ps.length)))
  | none, some (.unknown name similar), _ => .error (.usage (.unknownFlag name similar))
  | none, _, some e => .error (.usage e)
  | none, some (.known .help inFull), none => .error (.help inFull)
  | none, some (.known .version _), none => .error .version
  | none, none, none =>
    match ps with
    | [h, c, k] => .ok ⟨Utf8.lossy h, c, k⟩
    | _ => .error (.usage (.missing ([Operand.hostname, .certFile, .keyFile].drop ps.length)))

theorem flag?_eq (xs : List Bytes) :
    flag? xs = (xs.takeWhile (· != Flag.separator)).find? Flag.isFlag := rfl

theorem positionals_eq (xs : List Bytes) : positionals xs =
    match flag? xs with
    | some _ => xs.takeWhile (!Flag.isFlag ·)
    | none => xs.erase Flag.separator := rfl

section

variable {ps : List Bytes}

theorem length_le_of_early? (h : early? ps = none) : ps.length ≤ 3 := by
  by_contra hn
  simp only [early?] at h
  grind

theorem early?_three {h c k : Bytes} : early? [h, c, k] = none ↔ Utf8.IsText h ∧ c ≠ [] := by
  by_cases ht : Utf8.IsText h <;> by_cases hc : c = [] <;> simp [early?, ht, hc]

theorem early?_append {e : UsageError} (h : early? ps = some e) (qs : List Bytes) :
    early? (ps ++ qs) = some e := by
  have hg (i : ℕ) (hi : i < ps.length) : (ps ++ qs).getD i [] = ps.getD i [] := by
    simp [List.getElem?_append_left hi]
  have hl : ps.length ≤ (ps ++ qs).length := by simp
  unfold early? at h ⊢
  grind

theorem checkLast_eq (h : ps.length ≤ 3) : checkLast ps =
    match late? ps with
    | some e => .error (.usage e)
    | none => .ok () := by
  rcases ps with _ | ⟨a, _ | ⟨b, _ | ⟨c, _ | ⟨d, ps⟩⟩⟩⟩
  · rfl
  · by_cases ha : Utf8.IsText a <;> simp [checkLast, check, late?, Utf8.isSome_decode?_iff, ha]
  · by_cases hb : b = [] <;> simp [checkLast, check, late?, hb]
  · by_cases hc : c = [] <;> simp [checkLast, check, late?, hc]
  · simp only [List.length_cons] at h
    omega

/-- What is wrong with the last operand cannot be helped any more when the next one begins. -/
theorem early?_concat (h : early? ps = none) (arg : Bytes) : early? (ps ++ [arg]) =
    if ps.length < 3 then late? ps else some (.unexpectedOperand (Utf8.lossy arg)) := by
  have hl := length_le_of_early? h
  rcases ps with _ | ⟨a, _ | ⟨b, _ | ⟨c, _ | ⟨d, ps⟩⟩⟩⟩
  · simp [early?, late?]
  · simp [early?, late?]
  · have ha : Utf8.IsText a := by simpa [early?] using h
    simp [early?, late?, ha]
  · obtain ⟨ha, hb⟩ := early?_three.mp h
    simp [early?, ha, hb]
  · simp only [List.length_cons] at hl
    omega

theorem beginWith_eq (h : early? ps = none) (arg : Bytes) : beginWith ps arg =
    match early? (ps ++ [arg]) with
    | some e => .error (.usage e)
    | none => .ok (ps ++ [arg]) := by
  rw [early?_concat h, beginWith]
  split
  · rw [checkLast_eq (length_le_of_early? h)]
    cases late? ps <;> rfl
  · rfl

theorem verdict_of_early? {e : UsageError} (h : early? ps = some e) (f : Option Flag) :
    verdict ps f = .error (.usage e) := by
  simp [verdict, h]

theorem obey_eq (h : early? ps = none) (f : Flag) : .error (obey ps f) = verdict ps (some f) := by
  unfold verdict
  cases f with
  | known k inFull =>
    simp only [obey, checkLast_eq (length_le_of_early? h), h]
    cases late? ps with
    | some e => rfl
    | none => cases k <;> rfl
  | valued k value => simp [obey, h]
  | unknown name similar => simp [obey, h]

theorem finish_eq (h : early? ps = none) : finish ps = verdict ps none := by
  unfold finish verdict
  rw [checkLast_eq (length_le_of_early? h), h]
  cases late? ps with
  | some e => rfl
  | none => rcases ps with _ | ⟨a, _ | ⟨b, _ | ⟨c, _ | ⟨d, ps⟩⟩⟩⟩ <;> rfl

theorem operands_eq (h : early? ps = none) (xs : List Bytes) :
    operands ps xs = verdict (ps ++ xs) none := by
  induction xs generalizing ps with
  | nil => rw [operands, finish_eq h, List.append_nil]
  | cons arg xs ih =>
    rw [operands, beginWith_eq h, List.append_cons ps arg xs]
    cases he : early? (ps ++ [arg]) with
    | some e => exact (verdict_of_early? (early?_append he xs) none).symm
    | none => exact ih he

end

section

variable {arg : Bytes} {xs : List Bytes}

theorem isFlag_separator : Flag.isFlag Flag.separator = true := rfl

@[simp] theorem flag?_separator : flag? (Flag.separator :: xs) = none := by
  simp [flag?_eq]

@[simp] theorem positionals_separator : positionals (Flag.separator :: xs) = xs := by
  simp [positionals_eq]

theorem flag?_of_isFlag (hs : arg ≠ Flag.separator) (hf : Flag.isFlag arg = true) :
    flag? (arg :: xs) = some arg := by
  simp [flag?_eq, hs, hf]

theorem positionals_of_isFlag (hs : arg ≠ Flag.separator) (hf : Flag.isFlag arg = true) :
    positionals (arg :: xs) = [] := by
  simp [positionals_eq, flag?_of_isFlag hs hf, hf]

theorem flag?_of_not_isFlag (hf : Flag.isFlag arg = false) : flag? (arg :: xs) = flag? xs := by
  have hs : arg ≠ Flag.separator := by
    rintro rfl
    simp [isFlag_separator] at hf
  simp [flag?_eq, hs, hf]

theorem positionals_of_not_isFlag (hf : Flag.isFlag arg = false) :
    positionals (arg :: xs) = arg :: positionals xs := by
  have hs : arg ≠ Flag.separator := by
    rintro rfl
    simp [isFlag_separator] at hf
  simp only [positionals_eq, flag?_of_not_isFlag hf]
  cases flag? xs with
  | some f => simp [hf]
  | none => simp [hs]

/-- The scan from operands that have begun comes to the verdict on these and all that follow. -/
theorem arguments_eq {ps : List Bytes} (h : early? ps = none) (xs : List Bytes) :
    arguments ps xs = verdict (ps ++ positionals xs) ((flag? xs).map Flag.ofForm) := by
  induction xs generalizing ps with
  | nil =>
    have hn : ps ++ positionals [] = ps := List.append_nil ps
    rw [arguments, finish_eq h, hn]
    rfl
  | cons arg xs ih =>
    rw [arguments]
    by_cases hs : arg = Flag.separator
    · subst hs
      rw [if_pos rfl, operands_eq h, positionals_separator, flag?_separator, Option.map_none]
    · rw [if_neg hs, Flag.ofArgument?_eq]
      by_cases hf : Flag.isFlag arg = true
      · rw [flag?_of_isFlag hs hf, positionals_of_isFlag hs hf, List.append_nil, if_pos hf]
        exact obey_eq h _
      · rw [if_neg hf]
        rw [Bool.not_eq_true] at hf
        rw [flag?_of_not_isFlag hf, positionals_of_not_isFlag hf,
          List.append_cons ps arg (positionals xs)]
        simp only [beginWith_eq h]
        cases he : early? (ps ++ [arg]) with
        | some e => exact (verdict_of_early? (early?_append he _) _).symm
        | none => exact ih he

theorem verdict_eq_ok_iff {ps : List Bytes} {f : Option Flag} {i : Invocation} :
    verdict ps f = .ok i ↔ f = none ∧ ps = [Utf8.encode i.hostname, i.certFile, i.keyFile] ∧
      i.certFile ≠ [] ∧ i.keyFile ≠ [] := by
  constructor
  · intro h
    unfold verdict at h
    split at h <;> try contradiction
    next he hl =>
    split at h
    · next hostname cert key =>
      obtain ⟨⟨t, rfl⟩, hc⟩ := early?_three.mp he
      have hk : key ≠ [] := by simpa [late?] using hl
      cases h
      exact ⟨rfl, by rw [Utf8.lossy_encode], hc, hk⟩
    · contradiction
  · rintro ⟨rfl, rfl, hc, hk⟩
    have ht : Utf8.IsText (Utf8.encode i.hostname) := ⟨_, rfl⟩
    simp [verdict, early?, late?, ht, hc, hk]

end

end TlsSeed.CommandLine
