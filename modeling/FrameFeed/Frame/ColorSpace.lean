import FrameFeed.Frame.NameError
import FrameFeed.Json.Decoder
/-!
# Color spaces

Each color space has one name, the same in text and in documents (`ofName?_name`), and a number of
channels per pixel.
-/
namespace FrameFeed

inductive ColorSpace where
  | unknown
  | grayscale
  | bayerRG
  | bayerGR
  | bayerBG
  | bayerGB
  | rgb
  | rgba
  | bgr
  | bgra
  | rgb565
  | hsv
  | yuv420
  | nv12
  | nv21
  | yuv422
deriving DecidableEq, Repr, Inhabited

namespace ColorSpace

def all : List ColorSpace :=
  [unknown, grayscale, bayerRG, bayerGR, bayerBG, bayerGB, rgb, rgba, bgr, bgra, rgb565, hsv, yuv420,
    nv12, nv21, yuv422]

def name : ColorSpace → String
  | unknown => "unknown"
  | grayscale => "grayscale"
  | bayerRG => "bayerRG"
  | bayerGR => "bayerGR"
  | bayerBG => "bayerBG"
  | bayerGB => "bayerGB"
  | rgb => "RGB"
  | rgba => "RGBA"
  | bgr => "BGR"
  | bgra => "BGRA"
  | rgb565 => "RGB565"
  | hsv => "HSV"
  | yuv420 => "YUV420"
  | nv12 => "NV12"
  | nv21 => "NV21"
  | yuv422 => "YUV422"

def channels : ColorSpace → Nat
  | unknown => 0
  | grayscale | bayerRG | bayerGR | bayerBG | bayerGB => 1
  | nv12 | nv21 => 2
  | rgb | bgr | hsv | rgb565 | yuv420 | yuv422 => 3
  | rgba | bgra => 4

def ofName? (s : String) : Except NameError ColorSpace :=
  match all.find? (·.name = s) with
  | some c => .ok c
  | none => .error ⟨"color space", s⟩

/-- The names a document may use. -/
def spellings : List (String × ColorSpace) :=
  [("unknown", unknown), ("grayscale", grayscale), ("bayerRG", bayerRG), ("bayerGR", bayerGR),
    ("bayerBG", bayerBG), ("bayerGB", bayerGB), ("RGB", rgb), ("RGBA", rgba), ("BGR", bgr),
    ("BGRA", bgra), ("RGB565", rgb565), ("HSV", hsv), ("YUV420", yuv420), ("NV12", nv12),
    ("NV21", nv21), ("YUV422", yuv422)]

def decoder : Json.Decoder ColorSpace := .name spellings

/-- The name it has in a document that is written. -/
def wireName : ColorSpace → String
  | unknown => "unknown"
  | grayscale => "grayscale"
  | bayerRG => "bayerRG"
  | bayerGR => "bayerGR"
  | bayerBG => "bayerBG"
  | bayerGB => "bayerGB"
  | rgb => "RGB"
  | rgba => "RGBA"
  | bgr => "BGR"
  | bgra => "BGRA"
  | rgb565 => "RGB565"
  | hsv => "HSV"
  | yuv420 => "YUV420"
  | nv12 => "NV12"
  | nv21 => "NV21"
  | yuv422 => "YUV422"

def toJson (c : ColorSpace) : Json := .str c.wireName

theorem toJson_eq (c : ColorSpace) : c.toJson = .str c.name := by cases c <;> rfl

theorem ofName?_name (c : ColorSpace) : ofName? c.name = .ok c := by cases c <;> rfl

end ColorSpace
end FrameFeed
