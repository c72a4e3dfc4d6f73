import Mathlib.Data.List.TakeWhile
import TlsSeed.CommandLine.Flag
import TlsSeed.Proofs.Text.Parts
import TlsSeed.Proofs.Text.Utf8

/-! # Flags by their bytes

The bytes of an argument tell which flag it is, with no need to take it apart: a known flag in full,
one with a value after it, one by its letter, or none that is known. The forms are spelled out here,
and the table of known flags agrees with them.
-/

namespace TlsSeed.CommandLine

open Text

namespace Flag

/-- The argument begins with a hyphen and is not the hyphen alone. -/
def isFlag (arg : Bytes) : Bool :=
  arg.head? == some 0x2D && arg != [0x2D]

/-- The bytes of `--help` and `--version`. -/
def longForm : Known → Bytes
  | .help => [0x2D, 0x2D, 0x68, 0x65, 0x6C, 0x70]
  | .version => [0x2D, 0x2D, 0x76, 0x65, 0x72, 0x73, 0x69, 0x6F, 0x6E]

/-- The bytes of `--help=` and `--version=`, with which a flag with a value begins. -/
def valuedForm (k : Known) : Bytes :=
  longForm k ++ [0x3D]

/-- The bytes of `-h` and `-V`, with which a flag in short begins. -/
def shortForm : Known → Bytes
  | .help => [0x2D, 0x68]
  | .version => [0x2D, 0x56]

/-- The name by which a flag is told: up to the equals sign in the long form, and otherwise the
hyphen with the character after it, or with all that follows if that begins with none. -/
def nameOf (arg : Bytes) : String :=
  if [0x2D, 0x2D] <+: arg then Utf8.lossy (arg.takeWhile (· != 0x3D))
  else match Utf8.pieces arg with
    | .char h :: .char c :: _ => String.ofList [h, c]
    | _ => Utf8.lossy arg

/-- The known flag whose long name may have been meant. -/
def meant? (arg : Bytes) : Option Known :=
  if [0x2D, 0x2D] <+: arg then
    let name := Utf8.lossy ((arg.drop 2).takeWhile (· != 0x3D))
    match Similarity.closest? name ["help", "version"] with
    | some word =>
      if word = "help" then some .help else if word = "version" then some .version else none
    | none => none
  else none

/-- The flag that an argument is, by its form. -/
def ofForm (arg : Bytes) : Flag :=
  match [Known.help, .version].find? fun k => longForm k = arg with
  | some k => known k true
  | none => match [Known.help, .version].find? fun k => valuedForm k <+: arg with
    | some k => valued k (arg.drop (valuedForm k).length)
    | none => match [Known.help, .version].find? fun k => shortForm k <+: arg with
      | some k => known k false
      | none => unknown (nameOf arg) (meant? arg)

/-! ## The table of known flags -/

theorem all_eq : Known.all = [.help, .version] := rfl

theorem longForm_eq (k : Known) : longForm k = hyphen :: hyphen :: Utf8.encode k.name := by
  cases k <;> decide

theorem shortForm_eq (k : Known) : shortForm k = hyphen :: Utf8.encodeChar k.letter := by
  cases k <;> decide

theorem similar?_eq (name : String) : similar? name =
    match Similarity.closest? name ["help", "version"] with
    | some word =>
      if word = "help" then some .help else if word = "version" then some .version else none
    | none => none := by
  have hw : Known.all.map Known.name = ["help", "version"] := rfl
  rw [similar?, hw]
  cases Similarity.closest? name ["help", "version"] with
  | none => rfl
  | some word =>
    by_cases hh : word = "help"
    · subst hh
      rfl
    · by_cases hv : word = "version"
      · subst hv
        rfl
      · simp [Known.all, Known.name, hh, hv, Ne.symm hh, Ne.symm hv]

/-! ## Forms -/

theorem find?_false : ([Known.help, .version].find? fun _ => false) = none := rfl

theorem equals_notMem_name (k : Known) : equals ∉ Utf8.encode k.name := by
  cases k <;> decide

theorem pieces_hyphen (bs : Bytes) :
    Utf8.pieces (hyphen :: bs) = .char '-' :: Utf8.pieces bs := rfl

theorem lossy_hyphen (bs : Bytes) : Utf8.lossy (hyphen :: bs) = "-" ++ Utf8.lossy bs := by
  rw [Utf8.lossy, pieces_hyphen, Utf8.lossy, ← String.toList_inj]
  simp [Utf8.Piece.char?]

theorem lossy_long (bs : Bytes) : Utf8.lossy (hyphen :: hyphen :: bs) = "--" ++ Utf8.lossy bs := by
  rw [lossy_hyphen, lossy_hyphen, ← String.append_assoc]
  rfl

section

variable {bs : Bytes} (h : equals ∉ bs)

include h

theorem takeWhile_ne_equals : bs.takeWhile (· != equals) = bs :=
  List.takeWhile_eq_self_iff.mpr (bne_of_notMem h)

theorem dropWhile_ne_equals : bs.dropWhile (· != equals) = [] :=
  List.dropWhile_eq_nil_iff.mpr (bne_of_notMem h)

theorem takeWhile_ne_equals_append (value : Bytes) :
    (bs ++ equals :: value).takeWhile (· != equals) = bs := by
  simp [List.takeWhile_append_of_pos (bne_of_notMem h)]

theorem dropWhile_ne_equals_append (value : Bytes) :
    (bs ++ equals :: value).dropWhile (· != equals) = equals :: value := by
  simp [List.dropWhile_append_of_pos (bne_of_notMem h)]

end

theorem nameOf_long (bs : Bytes) :
    nameOf (hyphen :: hyphen :: bs) = "--" ++ Utf8.lossy (bs.takeWhile (· != equals)) := by
  have hs : [0x2D, 0x2D] <+: hyphen :: hyphen :: bs := ⟨bs, rfl⟩
  rw [nameOf, if_pos hs, ← lossy_long]
  rfl

theorem meant?_long (bs : Bytes) :
    meant? (hyphen :: hyphen :: bs) = similar? (Utf8.lossy (bs.takeWhile (· != equals))) := by
  have hs : [0x2D, 0x2D] <+: hyphen :: hyphen :: bs := ⟨bs, rfl⟩
  rw [meant?, if_pos hs, similar?_eq]
  rfl

theorem shortForm_long (k : Known) (bs : Bytes) : ¬ shortForm k <+: hyphen :: hyphen :: bs := by
  cases k <;> simp [shortForm, hyphen]

theorem valuedForm_eq (k : Known) :
    valuedForm k = hyphen :: hyphen :: (Utf8.encode k.name ++ [equals]) := by
  rw [valuedForm, longForm_eq]
  rfl

theorem valuedForm_long (k : Known) (bs : Bytes) :
    valuedForm k <+: hyphen :: hyphen :: bs ↔ Utf8.encode k.name ++ [equals] <+: bs := by
  simp [valuedForm_eq]

/-- A long form without an equals sign is a flag in full or none that is known. -/
theorem ofForm_plain {name : Bytes} (h : equals ∉ name) :
    ofForm (hyphen :: hyphen :: name) = ofLong name none := by
  have hv (k : Known) : ¬ valuedForm k <+: hyphen :: hyphen :: name := by
    rw [valuedForm_long]
    exact fun hp => h (hp.subset (by simp))
  simp only [ofForm, longForm_eq, List.cons.injEq, true_and, hv, shortForm_long, ofLong, all_eq,
    nameOf_long, meant?_long, takeWhile_ne_equals h, decide_false, find?_false, beq_eq_decide]
  cases [Known.help, .version].find? fun k => Utf8.encode k.name = name <;> rfl

/-- A long form with an equals sign is a flag with a value or none that is known. -/
theorem ofForm_valued {name : Bytes} (h : equals ∉ name) (value : Bytes) :
    ofForm (hyphen :: hyphen :: (name ++ equals :: value)) = ofLong name (some value) := by
  have hf (k : Known) : Utf8.encode k.name ≠ name ++ equals :: value := by
    intro hk
    exact equals_notMem_name k (by simp [hk])
  have hv (k : Known) : Utf8.encode k.name ++ [equals] <+: name ++ equals :: value ↔
      Utf8.encode k.name = name := by
    constructor
    · rintro ⟨rest, hr⟩
      rw [List.append_assoc, List.singleton_append] at hr
      rw [← takeWhile_ne_equals_append (equals_notMem_name k) rest, hr,
        takeWhile_ne_equals_append h]
    · rintro rfl
      exact ⟨value, by simp⟩
  simp only [ofForm, longForm_eq, List.cons.injEq, true_and, hf, decide_false, valuedForm_long, hv,
    shortForm_long, ofLong, all_eq, nameOf_long, meant?_long, takeWhile_ne_equals_append h,
    find?_false, beq_eq_decide]
  cases hk : [Known.help, .version].find? fun k => Utf8.encode k.name = name with
  | none => rfl
  | some k =>
    have hn : Utf8.encode k.name = name := by simpa using List.find?_some hk
    simp [valuedForm_eq, hn]

section

variable {b : UInt8} {rest : Bytes} (h : b ≠ hyphen)

include h

theorem not_long_short : ¬ [0x2D, 0x2D] <+: hyphen :: b :: rest := by
  rintro ⟨bs, hb⟩
  exact h (List.cons.inj (List.cons.inj hb).2).1.symm

theorem nameOf_short : nameOf (hyphen :: b :: rest) =
    match Utf8.pieces (b :: rest) with
    | .char c :: _ => "-" ++ String.singleton c
    | _ => "-" ++ Utf8.lossy (b :: rest) := by
  rw [nameOf, if_neg (not_long_short h), pieces_hyphen, lossy_hyphen]
  rcases Utf8.pieces (b :: rest) with _ | ⟨c | bs, ps⟩
  · rfl
  · rw [← String.toList_inj]
    simp
  · rfl

theorem meant?_short : meant? (hyphen :: b :: rest) = none :=
  if_neg (not_long_short h)

/-- A form that is not long begins with a letter that is known or is none that is known. -/
theorem ofForm_short : ofForm (hyphen :: b :: rest) = ofShort (b :: rest) := by
  have hf (k : Known) : longForm k ≠ hyphen :: b :: rest := by
    simp [longForm_eq, h.symm]
  have hv (k : Known) : ¬ valuedForm k <+: hyphen :: b :: rest := by
    simp [valuedForm_eq, h.symm]
  simp only [ofForm, hf, hv, decide_false, shortForm_eq, List.cons_prefix_cons, true_and,
    Utf8.encodeChar_prefix_iff, ofShort, all_eq, nameOf_short h, meant?_short h, find?_false]
  rcases Utf8.pieces (b :: rest) with _ | ⟨c | bs, ps⟩
  · simp
  · have hc (k : Known) : (k.letter == c) = decide (c = k.letter) := by
      rw [beq_eq_decide, decide_eq_decide]
      exact eq_comm
    cases hk : [Known.help, .version].find? fun k => decide (c = k.letter) <;>
      simp only [List.head?_cons, Option.some.injEq, Utf8.Piece.char.injEq, hc, hk]
  · simp

end

theorem isFlag_eq (arg : Bytes) : isFlag arg = (arg.head? == some hyphen && arg != [hyphen]) := rfl

/-- An argument is the flag of its form, unless it is no flag. -/
theorem ofArgument?_eq (arg : Bytes) :
    ofArgument? arg = if isFlag arg then some (ofForm arg) else none := by
  rcases arg with _ | ⟨a, _ | ⟨b, rest⟩⟩
  · rfl
  · simp [ofArgument?, isFlag_eq]
  · by_cases ha : a = hyphen
    · subst ha
      by_cases hb : b = hyphen
      · subst hb
        by_cases he : equals ∈ rest
        · obtain ⟨name, value, rfl, hn⟩ := List.eq_append_cons_of_mem he
          simp [ofArgument?, isFlag_eq, ofForm_valued hn, takeWhile_ne_equals_append hn,
            dropWhile_ne_equals_append hn]
        · simp [ofArgument?, isFlag_eq, ofForm_plain he, takeWhile_ne_equals he,
            dropWhile_ne_equals he]
      · simp [ofArgument?, isFlag_eq, hb, ofForm_short hb]
    · simp [ofArgument?, isFlag_eq, ha]

end Flag

end TlsSeed.CommandLine
