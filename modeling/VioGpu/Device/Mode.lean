import VioGpu.Lib.Word

/-!
# Statuses, modes, rectangles and pixel formats

The parts of `CURRENT_BDD_MODE` and `VIDEO_MODE_INFORMATION` the driver's callbacks use, the
pixel format functions, and `FindUpdateRect`.
-/

namespace VioGpu.Device

open Lib

/-- `NTSTATUS`, as far as the driver makes the statuses itself; `os` is a failure the OS or the
VirtIO library answers. -/
inductive Status
  | success
  | unsuccessful
  | noMemory
  | insufficientResources
  | graphicsInvalidVideoPresentSource
  | graphicsInvalidVideoPresentTarget
  | graphicsGammaRampNotSupported
  | graphicsVidPnModalityNotSupported
  | graphicsInvalidVideoPresentSourceMode
  | os (code : Nat)
  deriving DecidableEq, Repr

/-- `D3DDDIFORMAT`, as far as the driver tells the formats apart. -/
inductive D3dFormat
  | unknown
  | a1
  | p8
  | r5g6b5
  | r8g8b8
  | x8r8g8b8
  | a8r8g8b8
  | a8b8g8r8
  | x8b8g8r8
  | other
  deriving DecidableEq, Repr

/-- `BPPFromPixelFormat` -/
def bppFromPixelFormat : D3dFormat → Nat
  | .unknown => 0
  | .a1 => 1
  | .p8 => 8
  | .r5g6b5 => 16
  | .r8g8b8 => 24
  | .x8r8g8b8 | .a8r8g8b8 => 32
  | .a8b8g8r8 | .x8b8g8r8 | .other => 0

/-- `VIRTIO_GPU_FORMAT_B8G8R8A8_UNORM` -/
def virtioGpuFormatB8G8R8A8 : Nat := 1

/-- `ColorFormat` -/
def colorFormat : D3dFormat → Nat
  | .a8r8g8b8 => virtioGpuFormatB8G8R8A8
  | .x8r8g8b8 => 2
  | .a8b8g8r8 => 67
  | .x8b8g8r8 => 134
  | .unknown | .a1 | .p8 | .r5g6b5 | .r8g8b8 | .other => virtioGpuFormatB8G8R8A8

/-- `D3DKMDT_VIDPN_PRESENT_PATH_ROTATION` -/
inductive Rotation
  | uninitialized
  | identity
  | rotate90
  | rotate180
  | rotate270
  | unpinned
  | notSpecified
  deriving DecidableEq, Repr

/-- `D3DKMDT_VIDPN_PRESENT_PATH_SCALING` -/
inductive Scaling
  | uninitialized
  | identity
  | centered
  | stretched
  | aspectRatioCenteredMax
  | custom
  | unpinned
  | notSpecified
  deriving DecidableEq, Repr

/-- `DXGK_DISPLAY_INFORMATION` -/
structure DispInfo where
  width : Nat
  height : Nat
  pitch : Nat
  colorFormat : D3dFormat
  physicAddress : Nat
  deriving DecidableEq, Repr

/-- `CURRENT_BDD_MODE`. `ptr` is `FrameBuffer.Ptr`: the number of the object whose memory it
points to, `none` for `NULL`. -/
structure CurrentBddMode where
  dispInfo : DispInfo
  rotation : Rotation
  scaling : Scaling
  srcModeWidth : Nat
  srcModeHeight : Nat
  fullscreenPresent : Bool
  frameBufferIsActive : Bool
  doNotMapOrUnmap : Bool
  ptr : Option Nat
  deriving DecidableEq, Repr

/-- An entry of `m_ModeInfo` with its entry of `m_ModeNumbers`. -/
structure VideoModeInformation where
  modeNumber : Nat
  visScreenWidth : Nat
  visScreenHeight : Nat
  screenStride : Nat
  deriving DecidableEq, Repr

/-! ## Rectangles -/

/-- `RECT`, with signed coordinates. -/
structure Rect where
  left : Int
  top : Int
  right : Int
  bottom : Int
  deriving DecidableEq, Repr

/-- One turn of a loop of `FindUpdateRect`: `updrect` is `none` before the first rectangle. -/
def Rect.include (updrect : Option Rect) (r : Rect) : Option Rect :=
  match updrect with
  | none => some r
  | some u => some
    { bottom := max r.bottom u.bottom, left := min r.left u.left, right := max r.right u.right,
      top := min r.top u.top }

/-- `FindUpdateRect`: `none` for `FALSE`. -/
def findUpdateRect (moves dirtyRects : List Rect) : Option Rect :=
  dirtyRects.foldl Rect.include (moves.foldl Rect.include none)

end VioGpu.Device
