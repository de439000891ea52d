import Mathlib
import Lucida.Web.ChunkStore

namespace Lucida.Web
open Lib

inductive ProxyKind where
  | groupProxy3D
  | tileProxy3D
  deriving DecidableEq, Repr

def ProxyKind.name : ProxyKind → String
  | .groupProxy3D => "GroupProxy3D"
  | .tileProxy3D => "TileProxy3D"

structure ProxyCacheEntry where
  bytes : Nat
  datasetId : String
  entityId : String
  proxyKind : ProxyKind
  t : Nat
  c : Nat
  insertedAt : Number
  priority : Number
  lastSeenTick : Number
  deriving DecidableEq, Repr

def proxyInnerKey (entityId : String) (kind : ProxyKind) (t c : Nat) : String :=
  entityId ++ "|" ++ kind.name ++ "|" ++ toString t ++ "|" ++ toString c

structure ProxyStore where
  store : NestedMap String String ProxyCacheEntry
  bytes : Number
  budgetBytes : Number

namespace ProxyStore

structure Evictable where
  datasetId : String
  key : String
  entry : ProxyCacheEntry
  deriving DecidableEq, Repr

def initial (budgetBytes : Number) : ProxyStore := ⟨.empty,0,budgetBytes⟩

def get (s : ProxyStore) (datasetId innerKey : String) : Option ProxyCacheEntry := s.store.find? datasetId innerKey

def evictables (s : ProxyStore) : List Evictable :=
  s.store.entries.flatMap fun dataset => dataset.2.entries.map fun e => ⟨dataset.1,e.1,e.2⟩

def evict (s : ProxyStore) (victim : Evictable) : ProxyStore :=
  { s with store := s.store.drop victim.datasetId victim.key, bytes := s.bytes-victim.entry.bytes }

def evictIfNeeded (incomingBytes : Number) (s : ProxyStore) : ProxyStore :=
  if s.bytes+incomingBytes ≤ s.budgetBytes then s
  else (lruVictims (·.entry.insertedAt) (·.entry.bytes) s.evictables (s.bytes+incomingBytes-s.budgetBytes)).foldl evict s

def insert (datasetId innerKey : String) (entry : ProxyCacheEntry) (s : ProxyStore) : ProxyStore :=
  let s := s.evictIfNeeded entry.bytes
  { s with store := s.store.put datasetId innerKey entry, bytes := s.bytes+entry.bytes }

def cancelDataset (datasetId : String) (s : ProxyStore) : ProxyStore :=
  match s.store.get? datasetId with
  | none => s
  | some entries =>
    { s with
      store := s.store.erase datasetId
      bytes := entries.values.foldl (fun bytes entry => bytes-(entry.bytes : Number)) s.bytes }

def reset (s : ProxyStore) : ProxyStore := { s with store := .empty, bytes := 0 }

-- What `submit` writes through the live reference that `get` returns.
def refresh (datasetId innerKey : String) (priority lastSeenTick : Number) (s : ProxyStore) : ProxyStore :=
  { s with
    store := s.store.mapAll fun dataset key entry =>
      if dataset = datasetId ∧ key = innerKey then { entry with priority := priority, lastSeenTick := lastSeenTick } else entry }

end ProxyStore
end Lucida.Web
