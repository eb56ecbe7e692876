import MiniDrop.Agent.SymbolCollector
/-!
# Remembered uploads are real

An error that the server answers does not name anything as missing, and an upload that the server
refuses has been answered. What the agent remembers is with the server if all the answers are
successes, those to the checks are read to their ends, and no thread asks about what another one has
written to the shared file.
-/
namespace MiniDrop.Agent.SymbolUploads

open Base List

variable {w next : SymbolUploads} {round : UploadRound} {entries : List String}
  {exchange : Exchange} {id : String}

/-- The server has answered a check successfully without naming the identifier as missing, or an
upload of it. -/
def Confirmed (answers : List SymbolAnswer) (id : String) : Prop :=
  (∃ asked answer, .check asked answer ∈ answers ∧ answer.succeeded = true ∧ id ∈ asked ∧
      id ∉ extractMissing answer.body) ∨
    ∃ answer, .put id answer ∈ answers ∧ answer.succeeded = true

/-- Everything that is remembered is confirmed. -/
def Real (w : SymbolUploads) : Prop :=
  ∀ id ∈ w.uploadedBuildIDs, Confirmed w.answers id

/-- The thread asks about its own build identifiers, the answers to it are successes, and its check
is answered with at most 65536 bytes. -/
def Answered (w : SymbolUploads) : UploadRound → Prop
  | .start _ _ => True
  | .finish index exchange =>
    (∀ entries ∈ w.threads[index]?, entries ⊆ exchange.asked) ∧
      (∀ answer ∈ exchange.check, answer.succeeded = true ∧ answer.body.length ≤ 65536) ∧
      ∀ put ∈ exchange.puts, ∀ answer ∈ put, answer.succeeded = true

theorem Confirmed.mono {answers more : List SymbolAnswer} (confirmed : Confirmed answers id) :
    Confirmed (answers ++ more) id := by
  rcases confirmed with ⟨asked, answer, mem, facts⟩ | ⟨answer, mem, succeeded⟩
  · exact .inl ⟨asked, answer, mem_append_left more mem, facts⟩
  · exact .inr ⟨answer, mem_append_left more mem, succeeded⟩

/-- What a thread adds to what is remembered is confirmed. -/
theorem Real.uploadBuildIDsSync (real : Real w) (own : entries ⊆ exchange.asked)
    (checked : ∀ answer ∈ exchange.check, answer.succeeded = true ∧ answer.body.length ≤ 65536)
    (accepted : ∀ put ∈ exchange.puts, ∀ answer ∈ put, answer.succeeded = true) :
    Real (w.uploadBuildIDsSync entries exchange) := by
  unfold SymbolUploads.uploadBuildIDsSync
  cases received : exchange.check with
  | none => exact real
  | some answer =>
    obtain ⟨succeeded, short⟩ := checked answer received
    dsimp only
    rw [take_of_length_le short]
    split
    · next nothing =>
      intro id remembered
      rcases mem_append.mp remembered with old | new
      · exact (real id old).mono
      · refine .inl ⟨_, answer, mem_append_right _ (mem_singleton_self _), succeeded, own new, ?_⟩
        rw [nothing]
        exact not_mem_nil
    · intro id remembered
      rcases mem_append.mp remembered with old | new
      · exact (real id old).mono.mono
      · obtain ⟨upload, among, rfl⟩ := mem_map.mp new
        obtain ⟨⟨sent, put⟩, paired, answered⟩ := mem_filterMap.mp among
        obtain ⟨answer, received, rfl⟩ := Option.map_eq_some_iff.mp answered
        exact .inr ⟨answer, mem_append_right _ (mem_map_of_mem among),
          accepted put (of_mem_zip paired).2 answer received⟩

theorem Real.step (real : Real w) (answered : Answered w round) (taken : w.step round = some next) :
    Real next := by
  cases round with
  | start =>
    simp only [SymbolUploads.step] at taken
    split_ifs at taken
    all_goals
      cases taken
      exact real
  | finish index =>
    obtain ⟨entries, started, rfl⟩ := Option.map_eq_some_iff.mp taken
    have here : Real { w with threads := w.threads.eraseIdx index } := real
    exact here.uploadBuildIDsSync (answered.1 entries started) answered.2.1 answered.2.2

/-- The server has reported that it has the symbols of the kernel, or has accepted them. -/
def KernelConfirmed (check put : Option HttpAnswer) : Prop :=
  (∃ answer ∈ check, answer.succeeded = true ∧ responseUploadNotRequired answer = true) ∨
    ∃ answer ∈ put, answer.succeeded = true

theorem kernelConfirmed_of_returned {sum : String} {check put : Option HttpAnswer}
    (checked : ∀ answer ∈ check, answer.succeeded = true)
    (accepted : ∀ answer ∈ put, answer.succeeded = true)
    (returned : ensureKernelSymbolUploaded sum check put ≠ "") : KernelConfirmed check put := by
  unfold ensureKernelSymbolUploaded at returned
  cases received : check with
  | none => simp [received] at returned
  | some answer =>
    rw [received] at returned
    dsimp only at returned
    split_ifs at returned with empty present unclear sent <;> try exact absurd rfl returned
    · exact .inl ⟨answer, rfl, checked answer received, present⟩
    · obtain ⟨answer, accepts⟩ := Option.isSome_iff_exists.mp sent
      exact .inr ⟨answer, accepts, accepted answer accepts⟩

instance (w : SymbolUploads) (round : UploadRound) : Decidable (w.Answered round) := by
  cases round <;> dsimp only [Answered] <;> infer_instance

/-- The server misses one of two build identifiers and accepts it. -/
def oneMissing : List UploadRound :=
  [.start ["a1", "b2"] "http", .finish 0 ⟨["a1", "b2"],
    some ⟨200, "\x7b\"missing\":[\"b2\"]\x7d".toList⟩, ["b2"], [some ⟨200, []⟩]⟩]

end MiniDrop.Agent.SymbolUploads
