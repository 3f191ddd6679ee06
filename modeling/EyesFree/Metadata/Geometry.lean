import EyesFree.Fault
import EyesFree.Json.Codec

namespace EyesFree

/-! Sizes, rectangles and points in pixels, and the pixel formats of image streams. Rectangles and
points are in the coordinates of the sensor's active array. -/

structure Size where
  width : UInt32
  height : UInt32
deriving DecidableEq, Repr

namespace Size

def area (size : Size) : Nat := size.width.toNat * size.height.toNat

def describe (size : Size) : String := s!"{size.width.toNat}x{size.height.toNat}"

end Size

instance : Encode Size where
  encode size := .record [("width", encode size.width), ("height", encode size.height)]

instance : Decode Size where
  decode position json := do
    let [width, height] ← json.fields? ["width", "height"] | none
    return ⟨← Json.field? position width, ← Json.field? position height⟩

/-- A rectangle whose right and bottom edges are not part of it. Any four edges are admitted, so
the extent between two of them may not be a 32-bit integer. -/
structure Rect where
  left : Int32
  top : Int32
  right : Int32
  bottom : Int32
deriving DecidableEq, Repr

namespace Rect

def ofExtent (width height : Int32) : Rect := ⟨0, 0, width, height⟩

def width (rect : Rect) : Except Fault Int32 := subInt32 rect.right rect.left

def height (rect : Rect) : Except Fault Int32 := subInt32 rect.bottom rect.top

/-- The height is of no concern unless the width is positive. -/
def isEmpty (rect : Rect) : Except Fault Bool := do
  if (← rect.width) ≤ 0 then return true
  return decide ((← rect.height) ≤ 0)

end Rect

instance : Encode Rect where
  encode rect := .record [("left", encode rect.left), ("top", encode rect.top),
    ("right", encode rect.right), ("bottom", encode rect.bottom)]

instance : Decode Rect where
  decode position json := do
    let [left, top, right, bottom] ← json.fields? ["left", "top", "right", "bottom"] | none
    return ⟨← Json.field? position left, ← Json.field? position top,
      ← Json.field? position right, ← Json.field? position bottom⟩

structure Point where
  x : Single
  y : Single
deriving DecidableEq, Repr

instance : Encode Point where
  encode point := .record [("x", encode point.x), ("y", encode point.y)]

instance : Decode Point where
  decode position json := do
    let [x, y] ← json.fields? ["x", "y"] | none
    return ⟨← Json.field? position x, ← Json.field? position y⟩

inductive ImageFormat
  /-- Planar YUV 4:2:0. -/
  | yuv420
  /-- A format that only the implementation knows. -/
  | implementationDefined
  | jpeg
  | jpegR
deriving DecidableEq, Repr

namespace ImageFormat

def name : ImageFormat → String
  | .yuv420 => "yuv_420_888"
  | .implementationDefined => "private"
  | .jpeg => "jpeg"
  | .jpegR => "jpeg_r"

end ImageFormat

instance : Enumeration ImageFormat where
  values := [.yuv420, .implementationDefined, .jpeg, .jpegR]
  nodup := by decide
  complete value := by cases value <;> decide

instance : Encode ImageFormat := ⟨fun format => Json.ofString format.name⟩

instance : Decode ImageFormat where
  decode := Json.variant? ImageFormat.name

end EyesFree
