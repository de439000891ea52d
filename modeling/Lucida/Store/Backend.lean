import Lucida.Lib.Traverse
import Lucida.Store.Flights

namespace Lucida.Store.ChunkCache

-- The object store behind the cache: one read, and the multi-range read.
structure Backend where
  getOpts : ReadKey → ReadResult
  getRanges : Path → List (Nat × Nat) → Except StoreError (List Bytes)

-- The request a leader makes for its group. Claimed keys are bounded, so the
-- ranges are one for each key.
def Backend.fetch (backend : Backend) (key : ReadKey) (keys : List ReadKey) : Except StoreError (List Bytes) :=
  if keys.length = 1 then (backend.getOpts key).map fun bytes => [bytes]
  else backend.getRanges key.path (keys.filterMap ReadKey.bounded)

def Backend.memory (objects : Path → Option Bytes) : Backend :=
  let getOpts (key : ReadKey) : ReadResult :=
    match objects key.path with
    | none => .error (.notFound key.path "no such object")
    | some bytes =>
      match key.range with
      | none => .ok bytes
      | some (.suffix len) => .ok (bytes.drop (bytes.length-len))
      | some (.bounded start stop) =>
        if start < stop ∧ start < bytes.length then .ok ((bytes.take stop).drop start)
        else .error (.generic "InMemory" "range not satisfiable")
  ⟨getOpts,fun path ranges => ranges.mapM fun range => getOpts ⟨path,some (.bounded range.1 range.2)⟩⟩

-- What the cache relies on: a multi-range read answers with the slice each range
-- would get on its own, in order, and a missing object is missing for every range.
structure Backend.Lawful (backend : Backend) : Prop where
  slices : ∀ path ranges slices, backend.getRanges path ranges = .ok slices →
    List.Forall₂ (fun range slice => backend.getOpts ⟨path,some (.bounded range.1 range.2)⟩ = .ok slice)
      ranges slices
  missing : ∀ path ranges err, backend.getRanges path ranges = .error err → err.isNotFound = true →
    ∀ range ∈ ranges, ∃ err', backend.getOpts ⟨path,some (.bounded range.1 range.2)⟩ = .error err' ∧
      err'.isNotFound = true

theorem memory_lawful (objects : Path → Option Bytes) : (Backend.memory objects).Lawful := by
  refine ⟨fun path ranges slices ran => Lib.mapM_ok_iff.mp ran,?_⟩
  intro path ranges err ran notFound range _
  obtain ⟨other,_,failed⟩ := Lib.mapM_error ran
  cases stored : objects path with
  | none => exact ⟨.notFound path "no such object",by simp only [Backend.memory,stored],rfl⟩
  | some bytes =>
    simp only [stored] at failed
    split at failed
    · cases failed
    · cases failed
      cases notFound

end Lucida.Store.ChunkCache
