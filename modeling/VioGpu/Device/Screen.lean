import VioGpu.Device.HostPicture
import VioGpu.Device.PresentPlacement

/-!
# What the host shows

The driver draws into the memory of its frame buffer and tells the host by commands which part of it
to copy (`TRANSFER_TO_HOST_2D`) and to show (`RESOURCE_FLUSH`). The host takes a command at any
moment, also in the middle of a blit, and copies what the memory holds then.
-/

namespace VioGpu.Device

open Lib Queue

/-- The driver with `m_CurrentModes[0]`, the memory of each object, and the host. The running
callback has yet to make the `stores` into the memory at `FrameBuffer.Ptr` and then to do the
effects `todo`; `ring` holds the commands that the host has yet to take. -/
structure Screen where
  dod : Dod Gpu
  sourceNotVisible : Bool
  memory : Nat → Int → Byte
  stores : List Access
  todo : List Effect
  ring : List (Queued CtrlCommand)
  resources : Resources
  picture : Picture

inductive ScreenEvent
  | setSourceModeAndPath (modes : List VideoModeInformation) (pinned : VidPnSourceMode)
      (path : VidPnPresentPath) (a : Allocs)
  | setPointerShape (shape : PointerShape) (a : Allocs)
  | setPointerPosition (p : PointerPosition)
  | setVidPnSourceVisibility (visible : Bool)
  /-- `off` says whether the monitor is off -/
  | presentDisplayOnly (source : Int → Byte) (off : Bool) (p : PresentDisplayOnly)
  /-- the next access to the memory -/
  | store
  /-- the next effect; `entered` says whether a command finds room in its ring -/
  | perform (entered : Bool)
  /-- the host takes a command -/
  | host

namespace Screen

/-- The driver, without the index of the mode. -/
abbrev gpu (s : Screen) : Gpu := s.dod.device

/-- The running callback is done. -/
def Idle (s : Screen) : Prop := s.stores = [] ∧ s.todo = []

instance (s : Screen) : Decidable s.Idle := inferInstanceAs (Decidable (_ ∧ _))

/-- A callback leaves the driver in the state `g`, and what it does is to do. -/
def called (s : Screen) (g : Gpu) (stores : List Access) : Screen :=
  { s with
    dod := { s.dod with device := g }
    stores := stores
    todo := g.effects.drop s.gpu.effects.length }

/-- The memory at `FrameBuffer.Ptr` after an access. -/
def storeTo (s : Screen) (n : Nat) (a : Access) : Nat → Int → Byte :=
  Function.update s.memory n (applyAll a.store?.toList (s.memory n))

/-- `RtlZeroMemory`, byte by byte. -/
def zeroMemory (bytes : Nat) : List Access :=
  (List.range bytes).map fun k : Nat => .store ⟨k, [0]⟩

/-- The body of the loop of `SetVidPnSourceVisibility`, up to `SourceNotVisible`. -/
def setVisibility (s : Screen) (visible : Bool) : Screen :=
  if visible then
    s.called { s.gpu with mode := { s.gpu.mode with fullscreenPresent := true } } []
  else s.called s.gpu (s.gpu.blackOutScreen.elim [] fun (_, bytes) => zeroMemory bytes)

/-- A step of the driver or of the host. A callback that goes through `NULL` has none. -/
def step (s : Screen) : ScreenEvent → Option Screen
  | .setSourceModeAndPath modes pinned path a =>
    if s.Idle then do
      let (_, dod) ← Dod.setSourceModeAndPath gpuDevice s.dod modes pinned path a
      some { s.called dod.device [] with dod }
    else none
  | .setPointerShape shape a =>
    if s.Idle then (s.called · []) <$> s.gpu.setPointerShape shape a else none
  | .setPointerPosition p =>
    if s.Idle then (s.called · []) <$> s.gpu.setPointerPosition p else none
  | .setVidPnSourceVisibility visible =>
    if s.Idle then some { s.setVisibility visible with sourceNotVisible := !visible } else none
  | .presentDisplayOnly source off p =>
    if s.Idle then do
      let before := (s.gpu.mode.ptr.map s.memory).getD fun _ => 0
      let hidden := off || s.sourceNotVisible
      let (_, screen, g) ← s.gpu.presentDisplayOnly ⟨before, []⟩ source hidden p
      some (s.called g screen.accesses)
    else none
  | .store =>
    match s.stores with
    | [] => none
    | a :: stores => do
      let n ← s.gpu.mode.ptr
      some { s with memory := s.storeTo n a, stores }
  | .perform entered =>
    match s.stores, s.todo with
    | [], .ctrl n c :: todo =>
      some { s with todo, ring := s.ring ++ if entered then [(n, c)] else [] }
    | [], _ :: todo => some { s with todo }
    | _ :: _, _ | [], [] => none
  | .host =>
    match s.ring with
    | [] => none
    | e :: ring =>
      some { s with
        ring
        resources := s.resources.exec e
        picture := s.picture.exec s.memory s.resources e }

/-- The state after `StartDevice`: the device was reset, and nothing is known of the memory. -/
def start (acquired : DispInfo) (physicAddress : Nat) (memory : Nat → Int → Byte)
    (picture : Picture) : Screen where
  dod := ⟨.start (startDeviceMode acquired physicAddress), 0⟩
  sourceNotVisible := false
  memory := memory
  stores := []
  todo := []
  ring := []
  resources := .empty
  picture := picture

def system (acquired : DispInfo) (physicAddress : Nat) (memory : Nat → Int → Byte)
    (picture : Picture) : System Screen ScreenEvent where
  init := start acquired physicAddress memory picture
  step := step

end Screen

end VioGpu.Device
