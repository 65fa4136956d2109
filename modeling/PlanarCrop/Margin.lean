import PlanarCrop.Size

/-!
# Margins

A margin is the number of pixels to take away at one edge of a frame. What a
user asks for is signed and may be nonsense; what is cut are four unsigned
numbers. Two opposite margins may take away more than there is: the side that is
left over is then zero. Sums of margins are taken without wrapping around.
-/

namespace PlanarCrop

/-- One edge of a frame. -/
inductive Edge where
  | left
  | right
  | top
  | bottom
deriving DecidableEq

namespace Edge

/-- The edges in the order of the configuration. -/
def all : List Edge := [.left, .right, .top, .bottom]

/-- The configuration key that sets the margin at this edge. -/
def key : Edge → String
  | .left => "crop_left"
  | .right => "crop_right"
  | .top => "crop_top"
  | .bottom => "crop_bottom"

/-- The edge that a key sets the margin at. -/
def ofKey? (key : String) : Option Edge := all.find? fun edge => edge.key == key

theorem ofKey?_key (edge : Edge) : ofKey? edge.key = some edge := by
  cases edge <;> decide

theorem key_injective {edge other : Edge} (h : edge.key = other.key) : edge = other :=
  Option.some.inj <| by rw [← ofKey?_key, h, ofKey?_key]

end Edge

/-- The margins a user asked for. -/
structure MarginRequest where
  left : Int32
  right : Int32
  top : Int32
  bottom : Int32
deriving DecidableEq

namespace MarginRequest

def zero : MarginRequest := ⟨0, 0, 0, 0⟩

def get (m : MarginRequest) : Edge → Int32
  | .left => m.left
  | .right => m.right
  | .top => m.top
  | .bottom => m.bottom

/-- The request with the margin at one edge replaced. -/
def set (m : MarginRequest) (e : Edge) (value : Int32) : MarginRequest :=
  match e with
  | .left => { m with left := value }
  | .right => { m with right := value }
  | .top => { m with top := value }
  | .bottom => { m with bottom := value }

theorem get_set (m : MarginRequest) (e f : Edge) (value : Int32) :
    (m.set e value).get f = if f = e then value else m.get f := by
  cases e <;> cases f <;> rfl

theorem ext_get {m n : MarginRequest} (h : ∀ edge, m.get edge = n.get edge) : m = n := by
  obtain ⟨left, right, top, bottom⟩ := m
  obtain ⟨left', right', top', bottom'⟩ := n
  obtain rfl : left = left' := h .left
  obtain rfl : right = right' := h .right
  obtain rfl : top = top' := h .top
  obtain rfl : bottom = bottom' := h .bottom
  rfl

end MarginRequest

/-- The margins that are cut. -/
structure Margins where
  left : UInt32
  right : UInt32
  top : UInt32
  bottom : UInt32
deriving DecidableEq

namespace Margins

def zero : Margins := ⟨0, 0, 0, 0⟩

def get (m : Margins) : Edge → UInt32
  | .left => m.left
  | .right => m.right
  | .top => m.top
  | .bottom => m.bottom

/-- Nothing is cut at any edge. -/
def isZero (m : Margins) : Bool :=
  m.left == 0 && m.right == 0 && m.top == 0 && m.bottom == 0

/-- Pixels taken away from each row. -/
def horizontal (m : Margins) : Nat := m.left.toNat + m.right.toNat

/-- Rows taken away. -/
def vertical (m : Margins) : Nat := m.top.toNat + m.bottom.toNat

/-- Half of every margin, rounded down, for planes of half the size. -/
def halved (m : Margins) : Margins := ⟨m.left / 2, m.right / 2, m.top / 2, m.bottom / 2⟩

/-- The margins that a request stands for: a negative one counts as zero. -/
def ofRequest (m : MarginRequest) : Margins :=
  let cut (value : Int32) : UInt32 := UInt32.ofNat value.toInt.toNat
  ⟨cut m.left, cut m.right, cut m.top, cut m.bottom⟩

theorem ext_get {m n : Margins} (h : ∀ edge, m.get edge = n.get edge) : m = n := by
  obtain ⟨left, right, top, bottom⟩ := m
  obtain ⟨left', right', top', bottom'⟩ := n
  obtain rfl : left = left' := h .left
  obtain rfl : right = right' := h .right
  obtain rfl : top = top' := h .top
  obtain rfl : bottom = bottom' := h .bottom
  rfl

theorem isZero_iff {m : Margins} : m.isZero = true ↔ m = zero := by
  cases m
  simp [isZero, zero, and_assoc]

end Margins

/-- The size of a frame after the margins are taken away. -/
def Size.crop (s : Size) (m : Margins) : Size :=
  ⟨UInt32.ofNat (s.width.toNat - m.horizontal), UInt32.ofNat (s.height.toNat - m.vertical)⟩

theorem Size.toNat_width_crop (s : Size) (m : Margins) :
    (s.crop m).width.toNat = s.width.toNat - m.horizontal := by
  have h := s.width.toNat_lt
  simp only [crop, UInt32.toNat_ofNat']
  omega

theorem Size.toNat_height_crop (s : Size) (m : Margins) :
    (s.crop m).height.toNat = s.height.toNat - m.vertical := by
  have h := s.height.toNat_lt
  simp only [crop, UInt32.toNat_ofNat']
  omega

/-- Margins that cut anything cut something off a frame that is not empty. -/
theorem Size.crop_ne_self {size : Size} {m : Margins} (hsize : size.isEmpty = false)
    (hm : m ≠ .zero) : size.crop m ≠ size := by
  intro hself
  have hwidth := size.toNat_width_crop m
  have hheight := size.toNat_height_crop m
  rw [hself] at hwidth hheight
  obtain ⟨hw, hh⟩ := size.toNat_pos_of_isEmpty hsize
  unfold Margins.horizontal at hwidth
  unfold Margins.vertical at hheight
  obtain ⟨left, right, top, bottom⟩ := m
  simp only at hwidth hheight
  obtain rfl : left = 0 := UInt32.toNat_inj.1 (show left.toNat = 0 by omega)
  obtain rfl : right = 0 := UInt32.toNat_inj.1 (show right.toNat = 0 by omega)
  obtain rfl : top = 0 := UInt32.toNat_inj.1 (show top.toNat = 0 by omega)
  obtain rfl : bottom = 0 := UInt32.toNat_inj.1 (show bottom.toNat = 0 by omega)
  exact hm rfl

end PlanarCrop
