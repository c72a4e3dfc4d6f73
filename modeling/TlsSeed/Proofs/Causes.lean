import TlsSeed.Proofs.FailureLine
import TlsSeed.Proofs.Log.Truth

/-! # Causes

The text of an error ends with the text of its cause, so that every line about the error ends with
each of its causes. When the client cannot bring a put to an end, all that it tells of its causes is
found in the failure line, in order and with nothing between them but the words that name the put.
-/

namespace TlsSeed

open Text

variable {σ : Type} {o : Outside σ} {s : σ}

theorem PutError.isChain_chain (e : PutError) : e.chain.IsChain EndsWith := by
  cases e with
  | store report => exact .singleton _
  | encoding cause => exact .cons_cons ⟨_, rfl⟩ (.singleton _)

namespace SeedError

theorem chain_read (path : File.Path) (cause : File.Fault) : (read path cause).chain =
    ["Could not read " ++ Utf8.lossy path ++ ": " ++ cause.message, cause.message] := rfl

theorem chain_store (report : String) : (put (.store report)).chain =
    ["PutError: AwsError: " ++ report, "AwsError: " ++ report] := by
  have hw : "PutError: AwsError: " = "PutError: " ++ "AwsError: " := rfl
  rw [hw, String.append_assoc]
  rfl

theorem chain_encoding (cause : Item.DecodeError) : (put (.encoding cause)).chain =
    ["PutError: SerializeError: " ++ cause.message, "SerializeError: " ++ cause.message,
      cause.message] := by
  have hw : "PutError: SerializeError: " = "PutError: " ++ "SerializeError: " := rfl
  rw [hw, String.append_assoc]
  rfl

theorem isChain_chain (e : SeedError) : e.chain.IsChain EndsWith := by
  cases e with
  | read path cause => exact .cons_cons ⟨_, rfl⟩ (.singleton _)
  | put cause => exact .cons_cons ⟨_, rfl⟩ cause.isChain_chain

theorem message_endsWith {e : SeedError} {d : String} (h : d ∈ e.chain) :
    EndsWith e.message d := by
  rcases List.mem_cons.mp h with rfl | hd
  · exact .refl _
  · exact List.rel_of_pairwise_cons (List.isChain_iff_pairwise.mp e.isChain_chain) hd

theorem failureLine_endsWith_message (e : SeedError) : EndsWith e.failureLine e.message :=
  ⟨_, rfl⟩

/-- The line for a put that the client could not bring to an end: what failed, the causes from the
outside in, and the dump. -/
theorem failureLine_ofSend (x : Store.SendError) : (put (.ofSend x)).failureLine =
    "Could not add the item to table: PutError: AwsError: " ++
      ": ".intercalate (x.message :: x.causes) ++ " (" ++ x.dump ++ ")" := by
  have hw : "Could not add the item to table: PutError: AwsError: " =
      "Could not add the item to table: " ++ "PutError: " ++ "AwsError: " := rfl
  rw [failureLine_put, PutError.ofSend, PutError.message_store, Store.SendError.report, chainReport,
    chainText, hw]
  simp only [String.append_assoc]

end SeedError

/-- A call whose put is refused ends with all that the client tells of the refusal. -/
theorem Seeding.value_of_refused {t : Table} {hostname : String} {certPath keyPath : File.Path}
    {r : Run σ (Except SeedError Store.PutOutput)} {c : Client} {p : Store.Put}
    {x : Store.SendError} (h : Seeding o t hostname certPath keyPath s r)
    (hm : (c, p, .error x) ∈ r.puts) : r.value = .error (.put (.ofSend x)) := by
  rcases h.puts_cases with ⟨hn, -⟩ | ⟨cert, key, answer, -, -, hn, hv⟩
  · simp [hn] at hm
  · rw [hn, List.mem_singleton, Prod.mk.injEq, Prod.mk.injEq] at hm
    obtain ⟨-, -, rfl⟩ := hm
    exact hv

namespace Program

theorem told_of_refused {argv : List Bytes} {env : Environment} {c : Client} {p : Store.Put}
    {x : Store.SendError}
    (hm : (c, p, .error x) ∈ ((script argv env).run o s).puts) :
    ∃ j : Job, ((script argv env).run o s).events =
      [startEvent, putEvent j.table j.hostname, failureEvent (.put (.ofSend x))] := by
  cases hp : CommandLine.parse argv with
  | error h =>
    have hn := (running_run o s argv env).trace_eq_nil hp
    simp [Run.puts, hn] at hm
  | ok i =>
    have hg := (job env i).goes_run o s
    rw [run_of_parse hp, puts_ofSeeding] at hm
    refine ⟨job env i, ?_⟩
    rw [events_of_parse hp, hg.events_eq, hg.value_of_refused hm]
    rfl

end Program

/-- No cause is lost on the way to the log. The text of each error ends with that of its cause, and
the failure line with those of all causes. If a put fails, seeding ends with the causes that the
client tells, in order, and the one error that the program logs is the line that begins with
them. -/
theorem causes_reach_log (o : Outside σ) :
    ((∀ path cause, (SeedError.read path cause).chain =
        ["Could not read " ++ Utf8.lossy path ++ ": " ++ cause.message, cause.message]) ∧
      (∀ report, (SeedError.put (.store report)).chain =
        ["PutError: AwsError: " ++ report, "AwsError: " ++ report]) ∧
      ∀ cause, (SeedError.put (.encoding cause)).chain =
        ["PutError: SerializeError: " ++ cause.message, "SerializeError: " ++ cause.message,
          cause.message]) ∧
    (∀ e : SeedError, e.chain.IsChain EndsWith ∧ ∀ d ∈ e.chain, EndsWith e.failureLine d) ∧
    (∀ t hostname certPath keyPath s c p x,
      let r := (seed t hostname certPath keyPath).run o s
      (c, p, .error x) ∈ r.puts →
        r.value = .error (.put (.store
          (": ".intercalate (x.message :: x.causes) ++ " (" ++ x.dump ++ ")")))) ∧
    ∀ argv env s c p x,
      let r := (Program.script argv env).run o s
      (c, p, .error x) ∈ r.puts →
        ∃ e, r.events.filter (fun e => e.level = .error) = [e] ∧
          e.text = "Could not add the item to table: PutError: AwsError: " ++
            ": ".intercalate (x.message :: x.causes) ++ " (" ++ x.dump ++ ")" := by
  refine ⟨⟨SeedError.chain_read, SeedError.chain_store, SeedError.chain_encoding⟩,
    fun e => ⟨e.isChain_chain, fun d hd => ?_⟩, ?_, ?_⟩
  · exact e.failureLine_endsWith_message.trans (SeedError.message_endsWith hd)
  · intro t hostname certPath keyPath s c p x r hm
    exact (seeding_run o t hostname certPath keyPath s).value_of_refused hm
  · intro argv env s c p x r hm
    obtain ⟨j, he⟩ := Program.told_of_refused hm
    refine ⟨failureEvent (.put (.ofSend x)), ?_, SeedError.failureLine_ofSend x⟩
    rw [he]
    rfl

theorem causes_reach_log_refused :
    let x : Store.SendError :=
      ⟨"dispatch failure", ["io error", "connection refused"], "DispatchFailure"⟩
    let o : Outside Unit := ⟨fun s _ => (.ok [], s), fun s _ _ => (.error x, s)⟩
    let r := (Program.script (["cert-seed", "a.test", "c", "k"].map Utf8.encode)
      fun _ => none).run o ()
    (∃ c p, (c, p, .error x) ∈ r.puts) ∧
    (∃ e, r.events.filter (fun e => e.level = .error) = [e] ∧
      e.text = "Could not add the item to table: PutError: AwsError: " ++
        "dispatch failure: io error: connection refused (DispatchFailure)") ∧
    (SeedError.put (.encoding .expectedMap)).chain =
      ["PutError: SerializeError: Expected map", "SerializeError: Expected map",
        "Expected map"] := by
  intro x o r
  have hm : ∃ c p, (c, p, .error x) ∈ r.puts := ⟨_, _, .head _⟩
  obtain ⟨⟨-, -, hc⟩, -, -, hl⟩ := causes_reach_log o
  refine ⟨hm, ?_, hc _⟩
  obtain ⟨c, p, hm⟩ := hm
  obtain ⟨e, he, ht⟩ := hl _ _ _ c p x hm
  exact ⟨e, he, ht⟩

end TlsSeed
