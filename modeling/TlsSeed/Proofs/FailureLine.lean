import TlsSeed.Error
import TlsSeed.Proofs.Text.Numeral
import TlsSeed.Proofs.Text.Parts
import TlsSeed.Proofs.Text.Utf8

/-! # What a failure line tells

The line that is logged for an error tells which error it was. A path may hold colons and the words
of any failure, so the cause is found from the end of the line: its last character tells the kind,
and the number of the operating system stands behind the last blank. The path is what is left.
-/

namespace TlsSeed

open Text

namespace File.Fault

variable {f g : Fault}

/-- The failures that reading a file can end in. -/
inductive OfReading : Fault → Prop
  | system (number : ℤ) : OfReading (.system number)
  | notText : OfReading .notText
  | zeroInPath : OfReading .zeroInPath

/-- The last character of what is told about a failure. -/
def lastChar? (f : Fault) : Option Char :=
  f.message.toList.getLast?

theorem toList_message_system (n : ℤ) : (system n).message.toList =
    (ErrorNumber.text n ++ " (os error").toList ++ ' ' :: ((toString n).toList ++ [')']) := by
  simp [message]

@[simp] theorem lastChar?_system (n : ℤ) : (system n).lastChar? = some ')' := by
  rw [lastChar?, toList_message_system, ← List.cons_append, ← List.append_assoc,
    List.getLast?_concat]

@[simp] theorem lastChar?_notText : notText.lastChar? = some '8' := rfl

@[simp] theorem lastChar?_zeroInPath : zeroInPath.lastChar? = some 'e' := rfl

theorem getLast?_append_message (h : f.OfReading) (x : String) :
    (x ++ f.message).toList.getLast? = f.lastChar? := by
  have hn : ∃ c, f.lastChar? = some c := by
    cases h with
    | system n => exact ⟨_, lastChar?_system n⟩
    | notText => exact ⟨_, lastChar?_notText⟩
    | zeroInPath => exact ⟨_, lastChar?_zeroInPath⟩
  obtain ⟨c, hc⟩ := hn
  rw [hc, String.toList_append, List.getLast?_append, ← lastChar?, hc, Option.some_or]

theorem system_injective {x y : String} {m n : ℤ}
    (h : x ++ (system m).message = y ++ (system n).message) : m = n := by
  -- A numeral holds no blank, so the last blank of the line stands before it.
  have hb (k : ℤ) : ' ' ∉ (toString k).toList ++ [')'] := by
    rw [List.mem_append, not_or]
    exact ⟨Number.notMem_toString_int rfl (by decide), by decide⟩
  have hl := congrArg String.toList h
  rw [String.toList_append, String.toList_append, toList_message_system, toList_message_system,
    ← List.append_assoc, ← List.append_assoc] at hl
  obtain ⟨-, he⟩ := eq_and_eq_of_last_mark (hb m) (hb n) hl
  have hr : toString m = toString n := String.toList_inj.mp (List.append_cancel_right he)
  rwa [Int.toString_eq_repr, Int.toString_eq_repr, Int.repr_inj] at hr

/-- The failure is known from the end of the line, whatever stands before it. -/
theorem eq_of_append_message (hf : f.OfReading) (hg : g.OfReading) {x y : String}
    (h : x ++ f.message = y ++ g.message) : f = g := by
  have hl : f.lastChar? = g.lastChar? := by
    rw [← getLast?_append_message hf x, h, getLast?_append_message hg y]
  cases hf with
  | system m =>
    cases hg with
    | system n => rw [system_injective h]
    | notText => simp at hl
    | zeroInPath => simp at hl
  | notText =>
    cases hg with
    | system n => simp at hl
    | notText => rfl
    | zeroInPath => simp at hl
  | zeroInPath =>
    cases hg with
    | system n => simp at hl
    | notText => simp at hl
    | zeroInPath => rfl

end File.Fault

namespace PutError

theorem message_store (report : String) : (store report).message = "AwsError: " ++ report := rfl

theorem message_encoding (cause : Item.DecodeError) :
    (encoding cause).message = "SerializeError: " ++ cause.message := rfl

theorem message_store_ne_encoding (report : String) (cause : Item.DecodeError) :
    (store report).message ≠ (encoding cause).message := by
  rw [message_store, message_encoding]
  intro h
  have ht := congrArg (fun text => text.toList.take 1) h
  rw [take_toList_append (by decide), take_toList_append (by decide)] at ht
  exact absurd ht (by decide)

end PutError

namespace SeedError

variable {e e' : SeedError}

/-- The errors of seeding under paths that are texts: a file that could not be read, or any failure
to put. -/
inductive Ordinary : SeedError → Prop
  | read {path : File.Path} {cause : File.Fault} (hp : Utf8.IsText path) (hc : cause.OfReading) :
      Ordinary (.read path cause)
  | put (cause : PutError) : Ordinary (.put cause)

/-- Two errors tell of the same failure: the same path with the same cause, or the same kind of
failed put with the same text inside. -/
inductive Same : SeedError → SeedError → Prop
  | read (path : File.Path) (cause : File.Fault) : Same (.read path cause) (.read path cause)
  | store (report : String) : Same (.put (.store report)) (.put (.store report))
  | encoding {c d : Item.DecodeError} (h : c.message = d.message) :
      Same (.put (.encoding c)) (.put (.encoding d))

theorem failureLine_read (path : File.Path) (cause : File.Fault) :
    (read path cause).failureLine = "Could not read the certificate or key: " ++
      ("Could not read " ++ Utf8.lossy path ++ ": " ++ cause.message) := rfl

theorem failureLine_put (cause : PutError) :
    (put cause).failureLine =
      "Could not add the item to table: " ++ ("PutError: " ++ cause.message) := rfl

theorem failureLine_read_ne_put (path : File.Path) (f : File.Fault) (cause : PutError) :
    (read path f).failureLine ≠ (put cause).failureLine := by
  rw [failureLine_read, failureLine_put]
  intro h
  have ht := congrArg (fun line => line.toList.take 11) h
  rw [take_toList_append (by decide), take_toList_append (by decide)] at ht
  exact absurd ht (by decide)

theorem same_of_read {path path' : File.Path} {f g : File.Fault} (hp : Utf8.IsText path)
    (hp' : Utf8.IsText path') (hf : f.OfReading) (hg : g.OfReading)
    (h : (read path f).failureLine = (read path' g).failureLine) :
    Same (read path f) (read path' g) := by
  rw [failureLine_read, failureLine_read, String.append_right_inj] at h
  obtain rfl := File.Fault.eq_of_append_message hf hg h
  obtain ⟨s, rfl⟩ := hp
  obtain ⟨t, rfl⟩ := hp'
  rw [String.append_left_inj, String.append_left_inj, String.append_right_inj, Utf8.lossy_encode,
    Utf8.lossy_encode] at h
  rw [h]
  exact .read ..

theorem same_of_put {c d : PutError} (h : (put c).failureLine = (put d).failureLine) :
    Same (put c) (put d) := by
  rw [failureLine_put, failureLine_put, String.append_right_inj, String.append_right_inj] at h
  cases c with
  | store report =>
    cases d with
    | store report' =>
      rw [PutError.message_store, PutError.message_store, String.append_right_inj] at h
      rw [h]
      exact .store _
    | encoding d => exact absurd h (PutError.message_store_ne_encoding report d)
  | encoding c =>
    cases d with
    | store report => exact absurd h.symm (PutError.message_store_ne_encoding report c)
    | encoding d =>
      rw [PutError.message_encoding, PutError.message_encoding, String.append_right_inj] at h
      exact .encoding h

theorem eq_of_same_read {path path' : File.Path} {f g : File.Fault}
    (h : Same (read path f) (read path' g)) : path = path' ∧ f = g := by
  cases h
  exact ⟨rfl, rfl⟩

theorem Same.failureLine_eq (h : Same e e') : e.failureLine = e'.failureLine := by
  cases h with
  | read path cause => rfl
  | store report => rfl
  | encoding h =>
    rw [failureLine_put, failureLine_put, PutError.message_encoding, PutError.message_encoding, h]

/-- The lines of two errors are equal exactly if the errors tell of the same failure, although paths
and texts may hold whatever the lines themselves do. -/
theorem failureLine_identifies (h : e.Ordinary) (h' : e'.Ordinary) :
    e.failureLine = e'.failureLine ↔ Same e e' := by
  refine ⟨fun hl => ?_, Same.failureLine_eq⟩
  cases h with
  | read hp hc =>
    cases h' with
    | read hp' hc' => exact same_of_read hp hp' hc hc' hl
    | put cause => exact absurd hl (failureLine_read_ne_put _ _ cause)
  | put cause =>
    cases h' with
    | read hp' hc' => exact absurd hl.symm (failureLine_read_ne_put _ _ cause)
    | put cause' => exact same_of_put hl

theorem failureLine_identifies_imitated :
    let e : SeedError :=
      .read (Utf8.encode "a: No such file or directory (os error 2)") (.system 13)
    let e' : SeedError := .read (Utf8.encode "a") (.system 2)
    let e'' : SeedError := .put (.store "a: No such file or directory (os error 2)")
    e.Ordinary ∧ e'.Ordinary ∧ e''.Ordinary ∧
      e.failureLine ≠ e'.failureLine ∧ e'.failureLine ≠ e''.failureLine := by
  intro e e' e''
  have he : e.Ordinary := .read ⟨_, rfl⟩ (.system 13)
  have he' : e'.Ordinary := .read ⟨_, rfl⟩ (.system 2)
  have he'' : e''.Ordinary := .put _
  refine ⟨he, he', he'', ?_, ?_⟩
  · intro hl
    have hc := (eq_of_same_read ((failureLine_identifies he he').mp hl)).2
    exact absurd (File.Fault.system.inj hc) (by decide)
  · intro hl
    have hs : Same (.read _ _) (.put _) := (failureLine_identifies he' he'').mp hl
    exact nomatch hs

end SeedError

end TlsSeed
