import Lucida.Core.Layout

namespace Lucida.Core
open Content

inductive BlendMode where
  | alpha
  | additive
  | max
  deriving DecidableEq, Repr

inductive RenderMode where
  | translucent
  | maxIntensity
  deriving DecidableEq, Repr

inductive Colormap where
  | gray
  | magenta
  | green
  | cyan
  | red
  | blue
  | yellow
  | viridis
  | inferno
  | plasma
  | magma
  | turbo
  | hot
  | cool
  | jet
  deriving DecidableEq, Repr

def Colormap.defaultForChannel (index : Nat) : Colormap :=
  match index % 3 with
  | 0 => .magenta
  | 1 => .green
  | _ => .cyan

structure ChannelSettings (R : Type) where
  visible : Bool
  colormap : Colormap
  contrastMin : R
  contrastMax : R
  gamma : R
  name : Option String
  deriving BEq, DecidableEq, Repr

structure LabelSettings (R : Type) where
  visible : Bool
  opacity : R
  deriving BEq, DecidableEq, Repr

structure DatasetDisplaySettings (R : Type) where
  visible : Bool
  opacity : R
  contrastMin : R
  contrastMax : R
  gamma : R
  blendMode : BlendMode
  renderMode : RenderMode
  channelSettings : List (ChannelSettings R)
  labelSettings : List (LabelSettings R)
  channelBlendMode : BlendMode
  detailLevelOverride : Option Nat
  labelNames : List String
  deriving BEq, DecidableEq, Repr

structure DisplayState (R : Type) where
  contrastMin : R
  contrastMax : R
  gamma : R
  deriving BEq, DecidableEq, Repr

-- `zRange` is the half-open range of slices.
structure ViewState where
  zRange : Nat × Nat
  t : Nat
  c : Nat
  multiChannel : Bool
  deriving BEq, DecidableEq, Repr

structure SceneEpochs where
  content : Nat
  layout : Nat
  view : Nat
  selection : Nat
  asset : Nat
  annotations : Nat
  deriving DecidableEq, Repr

def ViewState.new : ViewState := ⟨(0,1),0,0,false⟩

section
variable {R : Type} [Numeric R]

def DisplayState.default : DisplayState R := ⟨0,Numeric.ofNat 65535,1⟩

def ChannelSettings.forChannel (index : Nat) : ChannelSettings R :=
  ⟨true,.defaultForChannel index,0,Numeric.ofNat 65535,1,none⟩

def LabelSettings.default : LabelSettings R := ⟨false,Numeric.half⟩

namespace DatasetDisplaySettings

def default : DatasetDisplaySettings R :=
  ⟨true,1,0,Numeric.ofNat 65535,1,.alpha,.translucent,[],[],.additive,none,[]⟩

-- `ensure_channel` and `ensure_label`, then a write through the reference.
def modifyChannel (settings : DatasetDisplaySettings R) (index : Nat) (f : ChannelSettings R → ChannelSettings R) :
    DatasetDisplaySettings R :=
  let count := settings.channelSettings.length
  let grown := settings.channelSettings ++ (List.range' count (index+1-count)).map ChannelSettings.forChannel
  {settings with channelSettings := grown.modify index f}

def modifyLabel (settings : DatasetDisplaySettings R) (index : Nat) (f : LabelSettings R → LabelSettings R) :
    DatasetDisplaySettings R :=
  let grown := settings.labelSettings ++ List.replicate (index+1-settings.labelSettings.length) .default
  {settings with labelSettings := grown.modify index f}

def seededFor (manifest : DatasetManifest R) : DatasetDisplaySettings R :=
  let channelCount := ((manifest.images.head?.bind (·.multiscale.levels.head?)).map (·.shape.c)).getD 1
  {default with
    channelSettings := (List.range channelCount).map ChannelSettings.forChannel
    labelSettings := manifest.labels.map fun _ => .default
    labelNames := manifest.labels}

-- The settings of the `k`-th author label of this name.
def savedFor (saved : List (LabelSettings R)) (authorNames : List String) (name : String) (k : Nat) : LabelSettings R :=
  match (authorNames.zipIdx.filter (·.1 = name))[k]? with
  | some found => (saved[found.2]?).getD .default
  | none => .default

-- `placed` holds the names already given an entry.
def reconcileFrom (saved : List (LabelSettings R)) (authorNames placed : List String) :
    List String → List (LabelSettings R)
  | [] => []
  | name::rest => savedFor saved authorNames name (placed.count name)::
      reconcileFrom saved authorNames (placed ++ [name]) rest

def reconcileLabelSettings (saved : List (LabelSettings R)) (authorNames currentNames : List String) :
    List (LabelSettings R) :=
  if authorNames.isEmpty then (List.range currentNames.length).map fun i => (saved[i]?).getD .default
  else reconcileFrom saved authorNames [] currentNames

def reconciled (settings : DatasetDisplaySettings R) (manifest : DatasetManifest R) : DatasetDisplaySettings R :=
  {settings with
    labelSettings := reconcileLabelSettings settings.labelSettings settings.labelNames manifest.labels
    labelNames := manifest.labels}

-- Settings that carry label names follow the manifest's labels.
def realigned (settings : DatasetDisplaySettings R) (manifest : DatasetManifest R) : DatasetDisplaySettings R :=
  if settings.labelNames.isEmpty ∨ settings.labelNames = manifest.labels then settings else settings.reconciled manifest

end DatasetDisplaySettings
end
end Lucida.Core
