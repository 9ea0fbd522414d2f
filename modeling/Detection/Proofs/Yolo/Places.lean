/-
# The places of channels in a buffer

Whatever the layout, the channels of all anchors of all cells have places within the number of
elements of an output, each a place of its own, and they leave no element out.  In every layout a
place is an index of a table of rows, and its row is an index of another such table; the layouts
differ in what counts the rows.
-/
import Detection.Proofs.Table
import Detection.Yolo.Layer
import Mathlib.Tactic.Ring.RingNF

namespace Detection
namespace Yolo

lemma mem_places {d : Dimensions} {cell anchor : ℕ} :
    (cell, anchor) ∈ d.places ↔ cell < d.cells ∧ anchor < d.anchors := by
  simp [Dimensions.places]

lemma Dimensions.count_eq_channelsFirst (d : Dimensions) :
    d.count = d.anchors * d.channels * d.cells := by
  simp only [count]
  ring

lemma Dimensions.count_eq_channelBlocks (d : Dimensions) :
    d.count = d.anchors * d.cells * d.channels := by
  simp only [count]
  ring

namespace Variant

lemma place_channelsLast (d : Dimensions) (cell anchor channel : ℕ) :
    Variant.channelsLast.place d cell anchor channel =
      (cell * d.anchors + anchor) * d.channels + channel := by
  simp only [place, base, step]
  ring

lemma place_channelsFirst (d : Dimensions) (cell anchor channel : ℕ) :
    Variant.channelsFirst.place d cell anchor channel =
      (anchor * d.channels + channel) * d.cells + cell := by
  simp only [place, base, step]
  ring

lemma place_activated (d : Dimensions) (cell anchor channel : ℕ) :
    Variant.activated.place d cell anchor channel =
      Variant.channelsLast.place d cell anchor channel := rfl

lemma place_channelBlocks (d : Dimensions) (cell anchor channel : ℕ) :
    Variant.channelBlocks.place d cell anchor channel =
      (anchor * d.cells + cell) * d.channels + channel := by
  simp only [place, base, step]
  ring

/-- Every place is an index of the buffer. -/
theorem place_lt (v : Variant) {d : Dimensions} {cell anchor channel : ℕ}
    (hcell : cell < d.cells) (hanchor : anchor < d.anchors) (hchannel : channel < d.channels) :
    v.place d cell anchor channel < d.count := by
  cases v with
  | channelsLast =>
    rw [place_channelsLast]
    exact row_add_lt (row_add_lt hcell hanchor) hchannel
  | activated =>
    rw [place_activated, place_channelsLast]
    exact row_add_lt (row_add_lt hcell hanchor) hchannel
  | channelsFirst =>
    rw [place_channelsFirst, Dimensions.count_eq_channelsFirst]
    exact row_add_lt (row_add_lt hanchor hchannel) hcell
  | channelBlocks =>
    rw [place_channelBlocks, Dimensions.count_eq_channelBlocks]
    exact row_add_lt (row_add_lt hanchor hcell) hchannel

/-- No two channels have one place. -/
theorem place_inj (v : Variant) {d : Dimensions} {cell cell' anchor anchor' channel channel' : ℕ}
    (hcell : cell < d.cells) (hanchor : anchor < d.anchors) (hchannel : channel < d.channels)
    (hcell' : cell' < d.cells) (hanchor' : anchor' < d.anchors) (hchannel' : channel' < d.channels)
    (h : v.place d cell anchor channel = v.place d cell' anchor' channel') :
    cell = cell' ∧ anchor = anchor' ∧ channel = channel' := by
  cases v with
  | channelsLast =>
    rw [place_channelsLast, place_channelsLast, row_add_inj hchannel hchannel',
      row_add_inj hanchor hanchor'] at h
    exact ⟨h.1.1, h.1.2, h.2⟩
  | activated =>
    rw [place_activated, place_activated, place_channelsLast, place_channelsLast,
      row_add_inj hchannel hchannel', row_add_inj hanchor hanchor'] at h
    exact ⟨h.1.1, h.1.2, h.2⟩
  | channelsFirst =>
    rw [place_channelsFirst, place_channelsFirst, row_add_inj hcell hcell',
      row_add_inj hchannel hchannel'] at h
    exact ⟨h.2, h.1.1, h.1.2⟩
  | channelBlocks =>
    rw [place_channelBlocks, place_channelBlocks, row_add_inj hchannel hchannel',
      row_add_inj hcell hcell'] at h
    exact ⟨h.1.2, h.1.1, h.2⟩

/-- Every element of an output is a channel. -/
theorem exists_place_eq (v : Variant) {d : Dimensions} {index : ℕ} (h : index < d.count) :
    ∃ cell < d.cells, ∃ anchor < d.anchors, ∃ channel < d.channels,
      v.place d cell anchor channel = index := by
  cases v with
  | channelsLast | activated =>
    obtain ⟨row, hrow, channel, hchannel, rfl⟩ := exists_row_add h
    obtain ⟨cell, hcell, anchor, hanchor, rfl⟩ := exists_row_add hrow
    exact ⟨cell, hcell, anchor, hanchor, channel, hchannel, place_channelsLast ..⟩
  | channelsFirst =>
    rw [Dimensions.count_eq_channelsFirst] at h
    obtain ⟨row, hrow, cell, hcell, rfl⟩ := exists_row_add h
    obtain ⟨anchor, hanchor, channel, hchannel, rfl⟩ := exists_row_add hrow
    exact ⟨cell, hcell, anchor, hanchor, channel, hchannel, place_channelsFirst ..⟩
  | channelBlocks =>
    rw [Dimensions.count_eq_channelBlocks] at h
    obtain ⟨row, hrow, channel, hchannel, rfl⟩ := exists_row_add h
    obtain ⟨anchor, hanchor, cell, hcell, rfl⟩ := exists_row_add hrow
    exact ⟨cell, hcell, anchor, hanchor, channel, hchannel, place_channelBlocks ..⟩

end Variant

end Yolo
end Detection
