import Mathlib.Data.List.GetD
import Gatehouse.Proofs.Captcha.Strokes

/-!
# Characters in their slots

When the canvas is wide and high enough, every character that has a bitmap can be
read off the picture: its cell lies within its own slot and within the canvas
wherever it is shifted to, so no later character touches it, and lines and dots
are painted before any character.
-/

set_option autoImplicit false

namespace Gatehouse.Captcha

/-! ## Bitmaps -/

/-- Whether a bitmap has a bit; the highest of five bits is the leftmost column. -/
def isSet (rows : List Nat) (column row : Nat) : Bool :=
  (rows.getD row 0).testBit (glyphWidth - 1 - column)

theorem glyph_sized (char : Char) (rows : List Nat) (found : glyph? char = some rows) :
    rows.length = glyphHeight ∧ ∀ bits ∈ rows, bits < 2 ^ glyphWidth := by
  unfold glyph? at found
  split at found <;> cases found <;> decide

theorem row_lt_of_isSet (rows : List Nat) (column row : Nat) (set : isSet rows column row = true) :
    row < rows.length := by
  refine Nat.lt_of_not_le fun beyond => ?_
  rw [isSet, List.getD_eq_default _ _ beyond, Nat.zero_testBit] at set
  cases set

theorem mem_setBits (rows : List Nat) (column row : Nat) :
    (column, row) ∈ setBits rows ↔ column < glyphWidth ∧ isSet rows column row = true := by
  simp only [setBits, List.mem_flatMap, Prod.exists, List.mem_zipIdx_iff_getElem?,
    List.mem_filterMap, List.mem_range, Option.ite_none_right_eq_some, Option.some.injEq,
    Prod.mk.injEq]
  constructor
  · rintro ⟨bits, _, found, _, inside, set, rfl, rfl⟩
    refine ⟨inside, ?_⟩
    rwa [isSet, List.getD_eq_getElem?_getD, found]
  · rintro ⟨inside, set⟩
    have there := row_lt_of_isSet rows column row set
    refine ⟨rows[row], row, List.getElem?_eq_getElem there, column, inside, ?_, rfl, rfl⟩
    rwa [isSet, List.getD_eq_getElem _ _ there] at set

theorem mem_block (left top : Int) (scale : Nat) (point : Point) :
    point ∈ block left top scale ↔
      ∃ dx dy : Nat, dx < scale ∧ dy < scale ∧ point = ⟨left + dx, top + dy⟩ := by
  simp only [block, List.mem_flatMap, List.mem_map, List.mem_range]
  constructor
  · rintro ⟨dy, below, dx, beside, rfl⟩
    exact ⟨dx, dy, beside, below, rfl⟩
  · rintro ⟨dx, dy, beside, below, rfl⟩
    exact ⟨dy, below, dx, beside, rfl⟩

/-! ## Cells -/

section

variable (rows : List Nat) (color : Color) (scale x y : Nat)

theorem mem_points (point : Point) :
    point ∈ (⟨rows, x, y, color⟩ : Placed).points scale ↔
      ∃ column row dx dy : Nat, column < glyphWidth ∧ isSet rows column row = true ∧
        dx < scale ∧ dy < scale ∧
        point = ⟨(x + column * scale + dx : Nat), (y + row * scale + dy : Nat)⟩ := by
  simp only [Placed.points, List.mem_flatMap, Prod.exists, mem_setBits, mem_block]
  constructor
  · rintro ⟨column, row, ⟨inside, set⟩, dx, dy, beside, below, rfl⟩
    exact ⟨column, row, dx, dy, inside, set, beside, below, by push_cast; rfl⟩
  · rintro ⟨column, row, dx, dy, inside, set, beside, below, rfl⟩
    exact ⟨column, row, ⟨inside, set⟩, dx, dy, beside, below, by push_cast; rfl⟩

theorem mem_points_square (column row dx dy : Nat) (inside : column < glyphWidth)
    (beside : dx < scale) (below : dy < scale) :
    (⟨(x + column * scale + dx : Nat), (y + row * scale + dy : Nat)⟩ : Point) ∈
        (⟨rows, x, y, color⟩ : Placed).points scale ↔ isSet rows column row = true := by
  rw [mem_points]
  constructor
  · rintro ⟨column', row', dx', dy', -, set, beside', below', same⟩
    rw [Point.mk.injEq] at same
    have across := Canvas.cell_injective scale dx column dx' column' beside beside' (by omega)
    have down := Canvas.cell_injective scale dy row dy' row' below below' (by omega)
    rwa [across.2, down.2]
  · intro set
    exact ⟨column, row, dx, dy, inside, set, beside, below, rfl⟩

theorem points_in_columns (point : Point)
    (member : point ∈ (⟨rows, x, y, color⟩ : Placed).points scale) :
    (x : Int) ≤ point.x ∧ point.x < (x + glyphWidth * scale : Nat) := by
  obtain ⟨column, row, dx, dy, inside, -, beside, -, rfl⟩ :=
    (mem_points rows color scale x y point).mp member
  have columns : (column + 1) * scale ≤ glyphWidth * scale := Nat.mul_le_mul_right scale inside
  rw [Nat.succ_mul] at columns
  dsimp only
  omega

end

/-- A character shows on what is below it, with its cell at this corner: where the bitmap has a bit
there is a square of one colour, the rest of the cell is left as it was, and nothing of the cell is
off the image. -/
structure Shows (below image : Canvas) (rows : List Nat) (scale x y : Nat) (color : Color) :
    Prop where
  right : x + glyphWidth * scale ≤ image.width
  bottom : y + glyphHeight * scale ≤ image.height
  squares : ∀ column row dx dy, column < glyphWidth → row < glyphHeight → dx < scale → dy < scale →
    image.at? (x + column * scale + dx) (y + row * scale + dy) =
      if isSet rows column row then some color
      else below.at? (x + column * scale + dx) (y + row * scale + dy)

theorem shows_strike (canvas : Canvas) (whole : canvas.Whole) (rows : List Nat)
    (scale x y : Nat) (color : Color) (right : x + glyphWidth * scale ≤ canvas.width)
    (bottom : y + glyphHeight * scale ≤ canvas.height) :
    Shows canvas (canvas.strike ((⟨rows, x, y, color⟩ : Placed).stroke scale)) rows scale x y
      color := by
  obtain ⟨width, height, -⟩ := canvas.paintAll_keeps color
    ((⟨rows, x, y, color⟩ : Placed).points scale)
  refine ⟨right.trans_eq width.symm, bottom.trans_eq height.symm, ?_⟩
  intro column row dx dy inside above beside below
  have columns : (column + 1) * scale ≤ glyphWidth * scale := Nat.mul_le_mul_right scale inside
  have lines : (row + 1) * scale ≤ glyphHeight * scale := Nat.mul_le_mul_right scale above
  rw [Nat.succ_mul] at columns lines
  have held : Canvas.holds canvas.width canvas.height
      ⟨(x + column * scale + dx : Nat), (y + row * scale + dy : Nat)⟩ = true := by
    rw [Canvas.holds_iff]
    dsimp only
    omega
  have square := mem_points_square rows color scale x y column row dx dy inside beside below
  rw [Canvas.strike, Placed.stroke, Canvas.at?_paintAll color canvas whole]
  exact if_congr ((and_iff_left held).trans square) rfl rfl

theorem at?_strike_apart (canvas : Canvas) (whole : canvas.Whole) (rows : List Nat)
    (scale x y : Nat) (color : Color) (across down : Nat)
    (apart : across < x ∨ x + glyphWidth * scale ≤ across) :
    (canvas.strike ((⟨rows, x, y, color⟩ : Placed).stroke scale)).at? across down =
      canvas.at? across down := by
  rw [Canvas.strike, Placed.stroke, Canvas.at?_paintAll color canvas whole, if_neg]
  rintro ⟨member, -⟩
  have columns := points_in_columns rows color scale x y _ member
  dsimp only at columns
  omega

section

variable {below first image : Canvas} {rows : List Nat} {scale x y : Nat} {color : Color}

/-- A character that shows is still there when only what is to the right of its cell has changed. -/
theorem Shows.later (shows : Shows below first rows scale x y color)
    (width : image.width = first.width) (height : image.height = first.height)
    (same : ∀ across down, across < x + glyphWidth * scale →
      image.at? across down = first.at? across down) : Shows below image rows scale x y color := by
  refine ⟨shows.right.trans_eq width.symm, shows.bottom.trans_eq height.symm, ?_⟩
  intro column row dx dy inside above beside under
  have columns : (column + 1) * scale ≤ glyphWidth * scale := Nat.mul_le_mul_right scale inside
  rw [Nat.succ_mul] at columns
  rw [same _ _ (by omega)]
  exact shows.squares column row dx dy inside above beside under

theorem Shows.over (shows : Shows first image rows scale x y color)
    (same : ∀ across down, x ≤ across → first.at? across down = below.at? across down) :
    Shows below image rows scale x y color := by
  refine ⟨shows.right, shows.bottom, ?_⟩
  intro column row dx dy inside above beside under
  rw [shows.squares column row dx dy inside above beside under, same _ _ (by omega)]

end

/-! ## Slots -/

section

variable (width count : Nat) (wide : glyphWidth * (count + 2) ≤ width)

include wide

theorem cell_le_slot : glyphWidth * scaleOf width count ≤ slotWidth width count := by
  have five : 5 ≤ slotWidth width count := (Nat.le_div_iff_mul_le (by omega)).mpr wide
  have most : slotWidth width count / 6 * 6 ≤ slotWidth width count := Nat.div_mul_le_self _ _
  rw [scaleOf, glyphWidth]
  omega

theorem slot_bounds (position : Nat) (within : position < count) :
    slotWidth width count * (position + 1) + glyphWidth * scaleOf width count ≤
        slotWidth width count * (position + 2) ∧
      slotWidth width count * (position + 2) ≤ width := by
  have cell := cell_le_slot width count wide
  have last : slotWidth width count * (position + 2) ≤ slotWidth width count * (count + 2) :=
    Nat.mul_le_mul_left _ (by omega)
  have whole : slotWidth width count * (count + 2) ≤ width := Nat.div_mul_le_self _ _
  have next : slotWidth width count * (position + 2) =
      slotWidth width count * (position + 1) + slotWidth width count := Nat.mul_succ _ _
  omega

end

/-! ## Colours and shifts -/

/-- An opaque colour with channels from `low` up to and without `high`. -/
def Color.Between (low high : Nat) (color : Color) : Prop :=
  (low ≤ color.red.toNat ∧ color.red.toNat < high) ∧
    (low ≤ color.green.toNat ∧ color.green.toNat < high) ∧
    (low ≤ color.blue.toNat ∧ color.blue.toNat < high) ∧ color.alpha = 255

section

variable (words : Words) (start : Nat)

theorem channel_bounds (low high : Nat) (ordered : low < high) (small : high ≤ 256) :
    low ≤ ((channel low high).run words start).1.toNat ∧
      ((channel low high).run words start).1.toNat < high := by
  have bounds := Draw.between_bounds 32 low (high - 1) (by decide) (by omega) words start
  have same : ((channel low high).run words start).1 =
      UInt8.ofNat ((Draw.between 32 low (high - 1)).run words start).1.toNat := rfl
  rw [same, UInt8.toNat_ofNat_of_lt' (by rw [UInt8.size]; omega)]
  omega

theorem colorBetween_between (low high : Nat) (ordered : low < high) (small : high ≤ 256) :
    ((colorBetween low high).run words start).1.Between low high :=
  ⟨channel_bounds words _ low high ordered small, channel_bounds words _ low high ordered small,
    channel_bounds words _ low high ordered small, rfl⟩

theorem run_place (width height count position : Nat) (rows : List Nat) :
    ∃ shift color, (-5 ≤ shift ∧ shift ≤ 5) ∧ Color.Between 50 150 color ∧
      ((place width height count position rows).run words start).1 =
        ⟨rows, (slotWidth width count * (position + 1) : Nat),
          Int.tdiv ((height : Int) - (glyphHeight * scaleOf width count : Nat)) 2 + shift,
          color⟩ :=
  ⟨_, _, Draw.between_bounds 64 (-5) 5 (by decide) (by decide) words start,
    colorBetween_between words _ 50 150 (by decide) (by decide), rfl⟩

end

/-! ## All characters -/

/-- A canvas that holds the slots of so many characters, and their cells wherever they are shifted
to. -/
def Fits (width height count : Nat) : Prop :=
  glyphWidth * (count + 2) ≤ width ∧ glyphHeight * scaleOf width count + 10 ≤ height

/-- On a canvas that is high enough, the cell of a character is on it whatever the shift. -/
theorem top_of_fits (width height count : Nat) (fits : Fits width height count) (shift : Int)
    (shifted : -5 ≤ shift ∧ shift ≤ 5) :
    ∃ y : Nat, (y : Int) = ((height - glyphHeight * scaleOf width count) / 2 : Nat) + shift ∧
      Int.tdiv ((height : Int) - (glyphHeight * scaleOf width count : Nat)) 2 + shift = y ∧
      y + glyphHeight * scaleOf width count ≤ height := by
  have high := fits.2
  generalize glyphHeight * scaleOf width count = tall at high ⊢
  have middle : Int.tdiv ((height : Int) - (tall : Nat)) 2 = ((height - tall) / 2 : Nat) := by
    rw [Int.tdiv_eq_ediv_of_nonneg (by omega)]
    omega
  rw [middle]
  refine ⟨(((height - tall) / 2 : Nat) + shift).toNat, ?_, ?_, ?_⟩ <;> omega

/-- The character at a position of a text of this length shows at the left end of its own slot, half
way down but for a shift by up to five rows, in a colour that is neither light nor very dark. -/
def Legible (below image : Canvas) (count position : Nat) (rows : List Nat) : Prop :=
  ∃ (shift : Int) (y : Nat) (color : Color),
    (-5 ≤ shift ∧ shift ≤ 5) ∧ Color.Between 50 150 color ∧
    (y : Int) = ((image.height - glyphHeight * scaleOf image.width count) / 2 : Nat) + shift ∧
    Shows below image rows (scaleOf image.width count)
      (slotWidth image.width count * (position + 1)) y color

section

variable {below first image : Canvas} {count position : Nat} {rows : List Nat}

theorem Legible.later (legible : Legible below first count position rows)
    (width : image.width = first.width) (height : image.height = first.height)
    (cell : glyphWidth * scaleOf first.width count ≤ slotWidth first.width count)
    (same : ∀ across down, across < slotWidth first.width count * (position + 2) →
      image.at? across down = first.at? across down) : Legible below image count position rows := by
  obtain ⟨shift, y, color, shifted, tinted, atShift, shows⟩ := legible
  refine ⟨shift, y, color, shifted, tinted, ?_, ?_⟩
  · rwa [width, height]
  · rw [width]
    refine shows.later width height fun across down left => same across down ?_
    rw [Nat.mul_succ]
    omega

theorem Legible.over (legible : Legible first image count position rows)
    (same : ∀ across down, slotWidth image.width count * (position + 1) ≤ across →
      first.at? across down = below.at? across down) : Legible below image count position rows := by
  obtain ⟨shift, y, color, shifted, tinted, atShift, shows⟩ := legible
  exact ⟨shift, y, color, shifted, tinted, atShift, shows.over same⟩

end

section

variable (words : Words) (count : Nat)

/-- One character is placed in its slot and shows there, and nothing outside its cell changes. -/
theorem strike_legible (position start : Nat) (rows : List Nat) (canvas : Canvas)
    (whole : canvas.Whole) (fits : Fits canvas.width canvas.height count)
    (within : position < count) :
    let placed := ((place canvas.width canvas.height count position rows).run words start).1
    let image := canvas.strike (placed.stroke (scaleOf canvas.width count))
    Legible canvas image count position rows ∧
      ∀ across down, across < slotWidth canvas.width count * (position + 1) ∨
          slotWidth canvas.width count * (position + 2) ≤ across →
        image.at? across down = canvas.at? across down := by
  intro placed image
  obtain ⟨shift, color, shifted, tinted, placedAt⟩ :=
    run_place words start canvas.width canvas.height count position rows
  obtain ⟨y, atShift, atTop, bottom⟩ :=
    top_of_fits canvas.width canvas.height count fits shift shifted
  obtain ⟨cell, right⟩ := slot_bounds canvas.width count fits.1 position within
  rw [atTop] at placedAt
  obtain ⟨wide, high, -⟩ : image.width = canvas.width ∧ image.height = canvas.height ∧ _ :=
    canvas.paintAll_keeps placed.color (placed.points (scaleOf canvas.width count))
  constructor
  · refine ⟨shift, y, color, shifted, tinted, ?_, ?_⟩
    · rwa [wide, high]
    · rw [wide]
      have shows := shows_strike canvas whole rows (scaleOf canvas.width count)
        (slotWidth canvas.width count * (position + 1)) y color (cell.trans right) bottom
      rwa [← placedAt] at shows
  · intro across down outside
    have apart := at?_strike_apart canvas whole rows (scaleOf canvas.width count)
      (slotWidth canvas.width count * (position + 1)) y color across down
      (outside.imp_right cell.trans)
    rwa [← placedAt] at apart

theorem run_placeAll_none (width height position start : Nat) (char : Char) (rest : List Char)
    (unknown : glyph? char = none) :
    (placeAll width height count position (char :: rest)).run words start =
      (placeAll width height count (position + 1) rest).run words start := by
  rw [placeAll, unknown]

theorem run_placeAll_some (width height position start : Nat) (char : Char) (rest : List Char)
    (rows : List Nat) (known : glyph? char = some rows) :
    let placed := (place width height count position rows).run words start
    ((placeAll width height count position (char :: rest)).run words start).1 =
      placed.1 :: ((placeAll width height count (position + 1) rest).run words placed.2).1 := by
  rw [placeAll, known]
  rfl

end

/-- The image is a canvas on which these characters show from a position on, and which is as it was
before their first slot. -/
structure Lettered (canvas image : Canvas) (count position : Nat) (chars : List Char) : Prop where
  width : image.width = canvas.width
  height : image.height = canvas.height
  before : ∀ across down, across < slotWidth canvas.width count * (position + 1) →
    image.at? across down = canvas.at? across down
  legible : ∀ index char rows, chars[index]? = some char → glyph? char = some rows →
    Legible canvas image count (position + index) rows

namespace Lettered

variable {canvas image : Canvas} {count position : Nat} {char : Char} {rest : List Char}

theorem none_left (canvas : Canvas) (count position : Nat) :
    Lettered canvas canvas count position [] where
  width := rfl
  height := rfl
  before _ _ _ := rfl
  legible index char rows found := by cases found

theorem skip (lettered : Lettered canvas image count (position + 1) rest)
    (unknown : glyph? char = none) : Lettered canvas image count position (char :: rest) where
  width := lettered.width
  height := lettered.height
  before across down left :=
    lettered.before across down (left.trans_le (Nat.mul_le_mul_left _ (Nat.le_succ _)))
  legible index other rows found known := by
    cases index with
    | zero =>
        cases found
        rw [unknown] at known
        cases known
    | succ index =>
        have shows := lettered.legible index other rows found known
        rwa [Nat.add_assoc, Nat.add_comm 1 index] at shows

theorem strike {struck : Canvas} {rows : List Nat}
    (lettered : Lettered struck image count (position + 1) rest) (known : glyph? char = some rows)
    (width : struck.width = canvas.width) (height : struck.height = canvas.height)
    (cell : glyphWidth * scaleOf canvas.width count ≤ slotWidth canvas.width count)
    (here : Legible canvas struck count position rows)
    (elsewhere : ∀ across down, across < slotWidth canvas.width count * (position + 1) ∨
        slotWidth canvas.width count * (position + 2) ≤ across →
      struck.at? across down = canvas.at? across down) :
    Lettered canvas image count position (char :: rest) where
  width := lettered.width.trans width
  height := lettered.height.trans height
  before across down left := by
    have next : across < slotWidth struck.width count * (position + 2) := by
      rw [width]
      exact left.trans_le (Nat.mul_le_mul_left _ (Nat.le_succ _))
    exact (lettered.before across down next).trans (elsewhere across down (Or.inl left))
  legible index other rows' found also := by
    cases index with
    | zero =>
        cases found
        obtain rfl : rows = rows' := Option.some.inj (known.symm.trans also)
        exact here.later lettered.width lettered.height (by rwa [width]) lettered.before
    | succ index =>
        have shows := lettered.legible index other rows' found also
        rw [Nat.add_assoc, Nat.add_comm 1 index] at shows
        refine shows.over fun across down right => elsewhere across down (Or.inr ?_)
        rw [lettered.width, width] at right
        exact (Nat.mul_le_mul_left _ (by omega)).trans right

end Lettered

/-- Painting the characters from a position on shows each of them that has a bitmap. -/
theorem strikes_lettered (words : Words) (count : Nat) (chars : List Char) (position start : Nat)
    (canvas : Canvas) (whole : canvas.Whole) (fits : Fits canvas.width canvas.height count)
    (within : position + chars.length ≤ count) :
    let letters := ((placeAll canvas.width canvas.height count position chars).run words start).1
    Lettered canvas (canvas.strikeAll (letters.map (Placed.stroke (scaleOf canvas.width count))))
      count position chars := by
  induction chars generalizing position start canvas with
  | nil => exact Lettered.none_left canvas count position
  | cons char rest ih =>
      rw [List.length_cons] at within
      cases drawn : glyph? char with
      | none =>
          rw [run_placeAll_none words count _ _ position start char rest drawn]
          exact (ih (position + 1) start canvas whole fits (by omega)).skip drawn
      | some rows =>
          rw [run_placeAll_some words count _ _ position start char rest rows drawn]
          obtain ⟨here, elsewhere⟩ := strike_legible words count position start rows canvas whole
            fits (by omega)
          let placed := (place canvas.width canvas.height count position rows).run words start
          let struck := canvas.strike (placed.1.stroke (scaleOf canvas.width count))
          obtain ⟨width, height, kept⟩ :
              struck.width = canvas.width ∧ struck.height = canvas.height ∧ _ :=
            canvas.paintAll_keeps placed.1.color (placed.1.points (scaleOf canvas.width count))
          have tail := ih (position + 1) placed.2 struck (kept whole) (by rwa [width, height])
            (by omega)
          rw [width, height] at tail
          exact tail.strike drawn width height (cell_le_slot canvas.width count fits.1) here
            elsewhere

/-- Every picture of a size that is not empty is drawn, and nothing is painted outside the canvas.
Where the canvas holds the slots of all characters, every character that has a bitmap shows in its
own, on top of all lines and dots. -/
theorem question_legible (text : String) (width height : Nat) (wide : 0 < width)
    (high : 0 < height) :
    ∃ draw, picture text width height = .ok draw ∧ ∀ words position,
      let count := text.toList.length
      let image := (draw.run words position).1
      (image.width = width ∧ image.height = height ∧ image.Whole) ∧
      ∃ (lines dots : List Stroke) (start : Nat),
        let placed := ((placeAll width height count 0 text.toList).run words start).1
        let letters := placed.map fun one => (one.stroke (scaleOf width count)).clip width height
        image = (Canvas.blank width height).strikeAll (lines ++ dots ++ letters) ∧
        (lines.length = noiseLines ∧ ∀ stroke ∈ lines, stroke.IsLine width height) ∧
        (dots.length = noiseDots ∧ ∀ stroke ∈ dots, stroke.IsDot width height) ∧
        (∀ stroke ∈ lines ++ dots ++ letters, stroke.Within width height) ∧
        (Fits width height count →
          (∀ index char rows, text.toList[index]? = some char → glyph? char = some rows →
            (rows.length = glyphHeight ∧ ∀ bits ∈ rows, bits < 2 ^ glyphWidth) ∧
            Legible ((Canvas.blank width height).strikeAll (lines ++ dots)) image count index
              rows) ∧
          ∀ index other, index < other →
            slotWidth width count * (index + 1) + glyphWidth * scaleOf width count ≤
              slotWidth width count * (other + 1)) := by
  obtain ⟨draw, drawn, strokes⟩ := picture_strokes text width height wide high
  refine ⟨draw, drawn, fun words position => ?_⟩
  intro count image
  obtain ⟨lines, dots, start, lineCount, straight, dotCount, single, painted⟩ :=
    strokes words position
  let noise := (Canvas.blank width height).strikeAll (lines ++ dots)
  have noiseWide : noise.width = width := Canvas.width_strikeAll _ (lines ++ dots)
  have noiseHigh : noise.height = height := Canvas.height_strikeAll _ (lines ++ dots)
  have noiseWhole : noise.Whole :=
    Canvas.whole_strikeAll _ (lines ++ dots) (Canvas.whole_blank width height)
  let placed := ((placeAll width height count 0 text.toList).run words start).1
  have last : image = noise.strikeAll (placed.map (Placed.stroke (scaleOf width count))) := painted
  let letters := placed.map fun one => (one.stroke (scaleOf width count)).clip width height
  have clipped : image = (Canvas.blank width height).strikeAll (lines ++ dots ++ letters) := by
    have clip := Stroke.strikeAll_clip noise (placed.map (Placed.stroke (scaleOf width count)))
    rw [noiseWide, noiseHigh, List.map_map] at clip
    rw [Canvas.strikeAll_append, last, ← clip]
    rfl
  refine ⟨⟨?_, ?_, ?_⟩, lines, dots, start, clipped, ⟨lineCount, straight⟩, ⟨dotCount, single⟩,
    ?_, ?_⟩
  · rw [last, Canvas.width_strikeAll, noiseWide]
  · rw [last, Canvas.height_strikeAll, noiseHigh]
  · rw [last]
    exact Canvas.whole_strikeAll _ _ noiseWhole
  · intro stroke member
    rcases List.mem_append.mp member with noisy | letter
    · rcases List.mem_append.mp noisy with line | dot
      · exact (straight stroke line).within
      · exact (single stroke dot).within
    · obtain ⟨one, -, rfl⟩ := List.mem_map.mp letter
      exact Stroke.within_clip width height _
  · intro fits
    constructor
    · intro index char rows found known
      have lettered := strikes_lettered words count text.toList 0 start noise noiseWhole
        (by rwa [noiseWide, noiseHigh]) (by omega)
      rw [noiseWide, noiseHigh] at lettered
      have legible := lettered.legible index char rows found known
      rw [Nat.zero_add] at legible
      rw [last]
      exact ⟨glyph_sized char rows known, legible⟩
    · intro index other earlier
      have next : slotWidth width count * (index + 2) ≤ slotWidth width count * (other + 1) :=
        Nat.mul_le_mul_left _ (by omega)
      have cell := cell_le_slot width count fits.1
      rw [Nat.mul_succ] at next
      exact (Nat.add_le_add_left cell _).trans next

theorem question_legible_point :
    ∃ draw, picture "1?" 20 17 = .ok draw ∧ ∀ words position, ∃ (y : Nat) (color : Color),
      y ≤ 10 ∧ Color.Between 50 150 color ∧
        (draw.run words position).1.at? 12 (y + 6) = some color := by
  obtain ⟨draw, drawn, legible⟩ := question_legible "1?" 20 17 (by decide) (by decide)
  refine ⟨draw, drawn, fun words position => ?_⟩
  obtain ⟨⟨width, height, -⟩, lines, dots, start, -, -, -, -, fitting⟩ := legible words position
  obtain ⟨-, shift, y, color, shifted, tinted, atShift, shows⟩ :=
    (fitting ⟨by decide, by decide⟩).1 1 '?' _ rfl rfl
  have square := shows.squares 2 6 0 0 (by decide) (by decide)
  rw [width] at square
  rw [width, height] at atShift
  have middle : (17 - glyphHeight * scaleOf 20 "1?".toList.length) / 2 = 5 := by decide
  rw [middle] at atShift
  exact ⟨y, color, by omega, tinted, square (by decide) (by decide)⟩

end Gatehouse.Captcha
