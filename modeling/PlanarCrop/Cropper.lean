import PlanarCrop.Cropping
import PlanarCrop.Rotation
import PlanarCrop.Warning

/-!
# Croppers

A cropper is what a stream keeps from its start to its end: the margins, which
are fixed at the start, the sizes frames arrive and leave with, the warnings
about the margins, and for each resolution that is present a plan with its
staging buffer. If all margins are zero there are no plans, and frames pass
unchanged.

Starting a cropper asks an allocator for memory, and the requests and the log
are part of what comes back. Cropping goes through the resolutions in order and
stops at the first that fails; the frames and the staging buffers that it got to
before stay as it left them.
-/

namespace PlanarCrop

/-- The plan for one resolution and the buffer it works in. -/
structure Slot where
  plan : Plan
  staging : Staging
deriving DecidableEq

/-- What a stream keeps for cropping its frames. -/
structure Cropper where
  margins : Margins
  chroma : ChromaMode
  /-- The sizes frames arrive with. -/
  source : StreamSizes
  /-- The sizes frames leave with. -/
  output : StreamSizes
  warnings : List Warning
  normal : Option Slot
  high : Option Slot
deriving DecidableEq

/-- What comes of starting a cropper. -/
structure Startup where
  outcome : Except Failure Cropper
  /-- Every request for memory, in order. -/
  requests : List (Resolution × Nat)
  events : List Event

/-- What is left after an attempt to crop a set of frames. -/
structure CropStep where
  outcome : Except Failure Unit
  cropper : Cropper
  frames : Capture
  events : List Event

namespace Cropper

/-- Whether any margin is cut. -/
def isEnabled (c : Cropper) : Bool := !c.margins.isZero

/-- The plan and the buffer for a resolution. -/
def slot? (c : Cropper) : Resolution → Option Slot
  | .normal => c.normal
  | .high => c.high

/-- The cropper with the plan and the buffer for one resolution replaced. -/
def setSlot (c : Cropper) (r : Resolution) (slot : Slot) : Cropper :=
  match r with
  | .normal => { c with normal := some slot }
  | .high => { c with high := some slot }

/-- Bytes of the staging buffer for a resolution. -/
def stagingBytes? (c : Cropper) (r : Resolution) : Option Nat :=
  (c.slot? r).map fun slot => slot.staging.data.size

def plan? (c : Cropper) (r : Resolution) : Option Plan :=
  (c.slot? r).map Slot.plan

theorem slot?_setSlot (c : Cropper) (r q : Resolution) (slot : Slot) :
    (c.setSlot r slot).slot? q = if q = r then some slot else c.slot? q := by
  cases r <;> cases q <;> rfl

/-- A cropper is what it was started with and a slot for each resolution. -/
theorem ext_slot? {c d : Cropper} (hmargins : c.margins = d.margins)
    (hchroma : c.chroma = d.chroma) (hsource : c.source = d.source)
    (houtput : c.output = d.output) (hwarnings : c.warnings = d.warnings)
    (hslot : ∀ r, c.slot? r = d.slot? r) : c = d := by
  obtain ⟨margins, chroma, source, output, warnings, normal, high⟩ := c
  obtain ⟨_, _, _, _, _, normal', high'⟩ := d
  obtain rfl : normal = normal' := hslot .normal
  obtain rfl : high = high' := hslot .high
  cases hmargins
  cases hchroma
  cases hsource
  cases houtput
  cases hwarnings
  rfl

/-! ## Starting -/

/-- A cropper that has no plan yet. -/
def idle (source : StreamSizes) (request : MarginRequest) (chroma : ChromaMode) : Cropper where
  margins := .ofRequest request
  chroma := chroma
  source := source
  output := source
  warnings := source.marginWarnings request
  normal := none
  high := none

/-- The cropper with a plan and its buffer added, which fixes the size that frames
of this resolution leave with. -/
def install (c : Cropper) (plan : Plan) (staging : Staging) : Cropper :=
  { c with output := c.output.set plan.resolution plan.cropped }.setSlot plan.resolution
    ⟨plan, staging⟩

@[simp]
theorem margins_install (c : Cropper) (plan : Plan) (staging : Staging) :
    (c.install plan staging).margins = c.margins := by
  obtain ⟨r, size, margins, chroma⟩ := plan
  cases r <;> rfl

theorem slot?_install (c : Cropper) (plan : Plan) (staging : Staging) (r : Resolution) :
    (c.install plan staging).slot? r =
      if r = plan.resolution then some ⟨plan, staging⟩ else c.slot? r :=
  slot?_setSlot _ _ _ _

theorem sizeOf_output_install (c : Cropper) (plan : Plan) (staging : Staging)
    (r : Resolution) :
    (c.install plan staging).output.sizeOf r =
      if r = plan.resolution then plan.cropped else c.output.sizeOf r := by
  have houtput : (c.install plan staging).output =
      c.output.set plan.resolution plan.cropped := by
    obtain ⟨q, size, margins, chroma⟩ := plan
    cases q <;> rfl
  rw [houtput, StreamSizes.sizeOf_set]

/-- Sets up one resolution after the other, up to the first that fails. -/
def setUp (allocator : Allocator) : List (Resolution × Size) → Cropper → Startup
  | [], c => { outcome := .ok c, requests := [], events := [] }
  | (resolution, size) :: rest, c =>
    let plan : Plan := ⟨resolution, size, c.margins, c.chroma⟩
    match plan.croppedBytes with
    | .error fault => { outcome := .error (.fault fault), requests := [], events := [] }
    | .ok bytes =>
      match Staging.allocate allocator resolution bytes with
      | .error error =>
        { outcome := .error (.rejected error)
          requests := [(resolution, bytes)]
          events := [.startFailed error resolution] }
      | .ok staging =>
        let after := setUp allocator rest (c.install plan staging)
        { outcome := after.outcome
          requests := (resolution, bytes) :: after.requests
          events := .allocated resolution size plan.cropped staging.data.size :: after.events }

/-- Starts a cropper for frames that arrive with the sizes `source`. Questionable
margins are reported and corrected; the only errors are the allocator's. -/
def start (allocator : Allocator) (source : StreamSizes) (request : MarginRequest)
    (chroma : ChromaMode) : Startup :=
  let c := idle source request chroma
  let reports := c.warnings.map Event.warned
  if c.isEnabled then
    let up := setUp allocator source.present c
    { up with events := reports ++ up.events }
  else
    { outcome := .ok c, requests := [], events := reports ++ [.disabled] }

/-- Starts a cropper for frames that are rotated before they arrive. -/
def startRotated (allocator : Allocator) (capture : StreamSizes) (rotation : Rotation)
    (request : MarginRequest) (chroma : ChromaMode) : Startup :=
  start allocator (rotation.applyStream capture) request chroma

/-! ## Cropping -/

/-- Crops the frames of one resolution after the other, up to the first that
fails. A resolution has to be both planned for and captured, or neither. -/
def cropEach : List Resolution → Cropper → Capture → CropStep
  | [], c, frames => { outcome := .ok (), cropper := c, frames, events := [] }
  | r :: rest, c, frames =>
    match c.slot? r, frames.get? r with
    | some slot, some frame =>
      let done := slot.plan.cropFrame frame slot.staging
      let c' := c.setSlot r { slot with staging := done.staging }
      let frames' := frames.set r done.frame
      match done.outcome with
      | .error failure =>
        { outcome := .error failure, cropper := c', frames := frames', events := done.events }
      | .ok () =>
        let after := cropEach rest c' frames'
        { after with events := done.events ++ after.events }
    | none, none => cropEach rest c frames
    | some _, none =>
      { outcome := .error (.invalid (.missingFrame r)), cropper := c, frames, events := [] }
    | none, some _ =>
      { outcome := .error (.invalid (.unexpectedFrame r)), cropper := c, frames, events := [] }

/-- Crops a set of frames in every resolution. -/
def crop (c : Cropper) (frames : Capture) : CropStep :=
  if c.isEnabled then
    cropEach Resolution.all c frames
  else
    { outcome := .ok (), cropper := c, frames, events := [] }

/-! ## Release -/

/-- The staging buffers that a cropper holds. -/
def buffers (c : Cropper) : List Staging :=
  Resolution.all.filterMap fun r => (c.slot? r).map Slot.staging

/-- What the end of a cropper leaves in the log. -/
def release (c : Cropper) : List Event := [.released c.buffers.length]

end Cropper

end PlanarCrop
