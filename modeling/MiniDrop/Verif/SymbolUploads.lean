import MiniDrop.Server.SymbolUploads
/-!
# Rows of programs and their objects

Two uploads of one build identifier leave the object of the second and the row of the first. A row
that describes its object goes on doing so while each upload announces its length and meets no row
of its build identifier, in the ledger or on its way there, unless it brings the bytes that are
stored.
-/
namespace MiniDrop.SymbolLedger

open Base List SymbolLedger

variable {sha256 : Bytes → String} {w next : SymbolLedger} {row : UploadedSymbol}
  {action : UploadAction}

/-- The row has the hash and the length of the object under its key. -/
def Describes (sha256 : Bytes → String) (w : SymbolLedger) (row : UploadedSymbol) : Prop :=
  ∃ body, w.objects.lookup row.objectKey = some body ∧ row.sha256 = sha256 body ∧
    row.sizeBytes = body.length

/-- While no request is in progress, every ready row without a blob describes its object. -/
def Faithful (sha256 : Bytes → String) (w : SymbolLedger) : Prop :=
  w.inserting = [] → ∀ row ∈ w.rows, row.status = .ready → row.blobID = none →
    w.Describes sha256 row

/-- An upload that takes effect announces its length, and the rows of its build identifier, those on
their way included, are rows of the same bytes. -/
def Careful (w : SymbolLedger) : UploadAction → Prop
  | .put req _ fails => req.admitted = true → fails = false → 0 ≤ req.contentLength ∧
      ∀ row ∈ w.rows ++ w.inserting, row.buildID = req.buildID →
        w.objects.lookup ("symbols/" ++ req.buildID) = some req.body
  | .insert _ _ => True

/-- Every row, those on their way included, stands under the key of its build identifier and
describes its object. -/
def Sound (sha256 : Bytes → String) (w : SymbolLedger) : Prop :=
  ∀ row ∈ w.rows ++ w.inserting, row.objectKey = "symbols/" ++ row.buildID ∧ w.Describes sha256 row

/-- The length of a body that was announced. -/
theorem admitted_length {req : SymbolUpload} (admitted : req.admitted = true)
    (announced : 0 ≤ req.contentLength) : req.contentLength = req.body.length := by
  simp only [SymbolUpload.admitted, Bool.and_eq_true, Bool.or_eq_true, decide_eq_true_eq]
    at admitted
  exact admitted.2.resolve_left (not_lt.mpr announced)

theorem Sound.step (sound : Sound sha256 w) (careful : Careful w action)
    (taken : step sha256 w action = some next) : Sound sha256 next := by
  cases action with
  | put req =>
    simp only [step] at taken
    split at taken
    · next effect =>
      cases taken
      rw [Bool.and_eq_true, Bool.not_eq_true'] at effect
      obtain ⟨announced, same⟩ := careful effect.1 effect.2
      intro row mem
      rw [← append_assoc] at mem
      rcases mem_append.mp mem with old | new
      · obtain ⟨key, body, stored, described⟩ := sound row old
        refine ⟨key, body, ?_, described⟩
        -- The object under the key of the row is not written, or written with its own bytes.
        by_cases own : row.buildID = req.buildID
        · have kept := same row old own
          rw [key, own] at stored ⊢
          rw [stored] at kept
          cases kept
          exact lookup_place_self
        · rw [lookup_place_of_ne, stored]
          rw [key, Ne, String.append_right_inj]
          exact own
      · rw [mem_singleton.mp new]
        exact ⟨rfl, req.body, lookup_place_self, rfl, admitted_length effect.1 announced⟩
    · cases taken
      exact sound
  | insert =>
    obtain ⟨row, found, rfl⟩ := Option.map_eq_some_iff.mp taken
    have waiting := mem_of_getElem? found
    intro other mem
    rcases mem_append.mp mem with listed | later
    · split at listed
      · exact sound other (mem_append_left _ listed)
      · rcases mem_append.mp listed with old | new
        · exact sound other (mem_append_left _ old)
        · rw [mem_singleton.mp new]
          exact sound row (mem_append_right _ waiting)
    · exact sound other (mem_append_right _ (mem_of_mem_eraseIdx later))

/-- **The ledger describes the stored objects** in every state of a run of careful uploads. -/
theorem symbol_rows_faithful (sha256 : Bytes → String) (w : SymbolLedger)
    (actions : List UploadAction) (careful : Along (step sha256) Careful {} actions)
    (reached : run (step sha256) {} actions = some w) : w.Faithful sha256 := by
  have start : Sound sha256 {} := forall_mem_nil _
  have sound : Sound sha256 w := run_invariant_along
    (fun _ _ _ sound careful taken => sound.step careful taken) start careful reached
  intro _ row mem _ _
  exact (sound row (mem_append_left _ mem)).2

instance (w : SymbolLedger) (action : UploadAction) : Decidable (w.Careful action) := by
  cases action <;> dsimp only [Careful] <;> infer_instance

/-- A digest for samples. -/
def sampleSHA (body : Bytes) : String := String.ofList (body.map fun byte => Char.ofNat byte.toNat)

/-- An upload of a program that ends with a byte. -/
def sampleUpload (last : UInt8) : SymbolUpload where
  buildID := "0123456789abcdef"
  contentLength := 5
  body := [0x7f, 0x45, 0x4c, 0x46, last]

/-- An upload is repeated with the same bytes, while the first one is in progress. -/
theorem repeated_upload_faithful :
    (run (step sampleSHA) {} [.put (sampleUpload 1) 0 false, .put (sampleUpload 1) 1 false,
        .insert 0 false, .insert 0 false]).isSome = true ∧
      ∀ w, run (step sampleSHA) {} [.put (sampleUpload 1) 0 false,
        .put (sampleUpload 1) 1 false, .insert 0 false, .insert 0 false] = some w →
        w.Faithful sampleSHA :=
  ⟨by decide, fun w reached => symbol_rows_faithful sampleSHA w _
    (along_of_decide (by decide)) reached⟩

/-- The second of two uploads with other bytes leaves its object, and the first one its row. -/
theorem second_upload_misdescribed :
    ∃ w, run (step sampleSHA) {} [.put (sampleUpload 1) 0 false, .insert 0 false,
      .put (sampleUpload 2) 1 false, .insert 0 false] = some w ∧ ¬w.Faithful sampleSHA := by
  let row : UploadedSymbol :=
    { buildID := "0123456789abcdef", objectKey := "symbols/0123456789abcdef"
      sha256 := sampleSHA (sampleUpload 1).body, sizeBytes := 5 }
  refine ⟨{ objects := [("symbols/0123456789abcdef", (sampleUpload 2).body)], rows := [row] },
    by decide, fun faithful => ?_⟩
  obtain ⟨body, stored, hash, -⟩ := faithful rfl row (mem_singleton_self _) rfl rfl
  cases stored
  exact absurd hash (by decide)

end MiniDrop.SymbolLedger
