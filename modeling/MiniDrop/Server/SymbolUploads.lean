import MiniDrop.Base.Bytes
import MiniDrop.Server.SymbolWorkers
/-!
# Uploads of programs

`UploadSymbol` writes the body to the object of its build identifier, where the last one stays, and
then inserts a row with the hash and the announced length, of which the first one stays.
-/
namespace MiniDrop

open Base

/-- A request of `UploadSymbol`; the announced length is -1 if there is none. -/
structure SymbolUpload where
  buildID : String
  contentLength : Int
  body : Bytes

/-- A row of `symbol_files`, with its length. -/
structure UploadedSymbol extends SymbolFile where
  sizeBytes : Int
  deriving DecidableEq

/-- The objects and the ledger, and the rows of the requests that have written their objects. -/
structure SymbolLedger where
  objects : List (String × Bytes) := []
  (rows inserting : List UploadedSymbol := [])
  deriving DecidableEq

/-- A step of a request, which may fail: up to the write of its object, and the insert of its
row. -/
inductive UploadAction where
  | put (req : SymbolUpload) (now : Int) (fails : Bool)
  | insert (index : Nat) (fails : Bool)

def maxSymbolUploadBytes : Nat := 200 * 1024 * 1024

/-- The request is not refused, and its body can be read to the end. -/
def SymbolUpload.admitted (req : SymbolUpload) : Bool :=
  isBuildID req.buildID && decide (req.contentLength ≤ maxSymbolUploadBytes) &&
    req.body.take 4 = [0x7f, 0x45, 0x4c, 0x46] && decide (req.body.length ≤ maxSymbolUploadBytes) &&
    (decide (req.contentLength < 0) || req.contentLength = req.body.length)

namespace SymbolLedger

/-- One step of `UploadSymbol`. -/
def step (sha256 : Bytes → String) (w : SymbolLedger) : UploadAction → Option SymbolLedger
  | .put req now fails =>
    if req.admitted && !fails then
      some { w with
        objects := place w.objects ("symbols/" ++ req.buildID) req.body
        inserting := w.inserting ++ [{
          buildID := req.buildID
          objectKey := "symbols/" ++ req.buildID
          sha256 := sha256 req.body
          sizeBytes := req.contentLength
          createdAt := now }] }
    else some w
  | .insert index fails =>
    w.inserting[index]?.map fun row =>
      { w with
        inserting := w.inserting.eraseIdx index
        rows := if fails || w.rows.any (·.buildID = row.buildID) then w.rows else w.rows ++ [row] }

end SymbolLedger

end MiniDrop
