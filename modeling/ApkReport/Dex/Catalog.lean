/-
The catalog of sensitive device interfaces: a piece of a type descriptor, and the label
that its presence is reported under.
-/
import ApkReport.Bytes

namespace ApkReport.Dex

structure HardwareApi where
  pattern : String
  label : String
  deriving DecidableEq, Repr

def catalog : List HardwareApi := [
  ⟨"Landroid/hardware/Sensor;", "android.hardware.Sensor"⟩,
  ⟨"Landroid/hardware/SensorManager;", "android.hardware.SensorManager"⟩,
  ⟨"Landroid/hardware/SensorEvent;", "android.hardware.SensorEvent"⟩,
  ⟨"Landroid/hardware/SensorEventListener;", "android.hardware.SensorEventListener"⟩,
  ⟨"Landroid/hardware/camera2/", "android.hardware.camera2"⟩,
  ⟨"Landroid/hardware/Camera;", "android.hardware.Camera"⟩,
  ⟨"Landroid/location/LocationManager;", "android.location.LocationManager"⟩,
  ⟨"Landroid/media/AudioRecord;", "android.media.AudioRecord"⟩,
  ⟨"Landroid/bluetooth/", "android.bluetooth"⟩,
  ⟨"Landroid/nfc/", "android.nfc"⟩,
  ⟨"Landroid/hardware/fingerprint/", "android.hardware.fingerprint"⟩,
  ⟨"Landroid/hardware/biometrics/", "android.hardware.biometrics"⟩]

/-- `needle` stands in one piece somewhere in the text. -/
def occursIn (needle : List Char) : List Char → Bool
  | [] => needle.isEmpty
  | c :: rest => needle.isPrefixOf (c :: rest) || occursIn needle rest

/-- The interfaces of the catalog whose pattern occurs in the text. -/
def matchesIn (text : List Char) : List HardwareApi := catalog.filter fun api => occursIn api.pattern.toList text

/-- Labels in code point order, each once. -/
def sortedLabels (labels : List String) : List String :=
  (labels.eraseDups).mergeSort (· ≤ ·)

/-- The labels of the patterns that occur in the text. -/
def matchLabels (text : String) : List String := sortedLabels ((matchesIn text.toList).map (·.label))

/-- Every byte as the character of that number. -/
def byteText (b : Bytes) : List Char := b.map fun x => Char.ofNat x.toNat

end ApkReport.Dex
