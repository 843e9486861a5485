import Mathlib.Tactic.Lemma
import ReasonBindings.ParseTree.Basic
import ReasonBindings.Proofs.Text.Utf8.Parts

/-!
# Texts of nodes

The places of nodes are offsets of bytes, their texts consist of characters.  A node
that spans a part of a source text has exactly this part as its text, whatever stands
before and after it and however many bytes its characters have.  The texts of adjacent
nodes make up the text of the node that spans both when a character begins where they
meet; in a source text this is so between two characters and nowhere else.  Every span
has a text, the one reading of its bytes with a replacement character for each
unreadable part, also when it is cut inside of a character, lies beyond the end of the
source or the wrong way round, or is not UTF-8 at all.
-/

namespace ReasonBindings.Tree

/-- The node spans the bytes of a part of a text behind those of what stands before it. -/
structure Spans (node : Tree) (before part : String) : Prop where
  start_eq : node.start = before.utf8ByteSize
  stop_eq : node.stop = before.utf8ByteSize + part.utf8ByteSize

/-- The node spans two nodes that are adjacent. -/
structure Joins (whole left right : Tree) : Prop where
  start_eq : whole.start = left.start
  stop_eq : whole.stop = right.stop
  adjacent : left.stop = right.start
  left_le : left.start ≤ left.stop
  right_le : right.start ≤ right.stop

/-- The bytes that a node spans.  There are none when it does not stop behind its start, and only
those that the source has when it stops behind the end of the source. -/
def spanned (source : ByteArray) (node : Tree) : List UInt8 :=
  (source.toList.drop node.start).take (node.stop - node.start)

variable {source : ByteArray} {node left right whole : Tree}

/-- The text of a node is that of the source between its offsets. -/
lemma text_eq_slice : node.text source = Text.slice source node.start node.stop :=
  rfl

/-- The text of a node is the only reading of the bytes that it spans. -/
lemma text_eq_iff_reads {text : String} :
    node.text source = text ↔ Text.Utf8.Reads (node.spanned source) text.toList := by
  rw [Text.Utf8.reads_iff, text_eq_slice, ← String.toList_inj, Text.toList_slice, spanned]

/-- A node that spans a part of a text has this part as its text. -/
lemma Spans.text_eq {before part : String} (h : node.Spans before part) (after : String) :
    node.text (before ++ part ++ after).toUTF8 = part := by
  rw [text_eq_slice, h.start_eq, h.stop_eq, Text.slice_toUTF8]

/-- The texts of adjacent nodes that meet at a boundary are that of the node that spans both. -/
lemma Joins.text_append (h : whole.Joins left right) (hboundary : Text.Boundary source left.stop) :
    left.text source ++ right.text source = whole.text source := by
  rw [text_eq_slice, text_eq_slice, text_eq_slice, h.start_eq, h.stop_eq, ← h.adjacent]
  exact (Text.slice_eq_append h.left_le (h.adjacent ▸ h.right_le) hboundary).symm

/-- Adjacent nodes that span a part of a text have texts that make up the part exactly when they
meet at a boundary. -/
theorem Joins.text_append_eq_iff {before part : String} (h : whole.Joins left right)
    (hspans : whole.Spans before part) (after : String) :
    left.text (before ++ part ++ after).toUTF8 ++ right.text (before ++ part ++ after).toUTF8 =
        part ↔ Text.Boundary (before ++ part ++ after).toUTF8 left.stop := by
  have hstart : left.start = before.utf8ByteSize := h.start_eq.symm.trans hspans.start_eq
  have hstop : right.stop = before.utf8ByteSize + part.utf8ByteSize :=
    h.stop_eq.symm.trans hspans.stop_eq
  obtain ⟨count, hcount⟩ := Nat.exists_eq_add_of_le (hstart ▸ h.left_le)
  have hle : count ≤ part.utf8ByteSize := by
    have hright := h.right_le
    rw [← h.adjacent, hcount, hstop] at hright
    exact Nat.add_le_add_iff_left.mp hright
  rw [text_eq_slice, text_eq_slice, ← h.adjacent, hstart, hstop, hcount]
  exact Text.slice_append_slice_iff before part after hle

/-- **Texts of nodes.**  A node that spans a part of a text has this part as its text.  Adjacent
nodes that meet at a boundary of any source have texts that make up the text of the node that spans
both, and the boundaries in a source text are the places between its characters.  Whatever bytes the
source has and whatever a node spans, its text is the one reading of the spanned bytes with a
replacement character for each unreadable part. -/
theorem texts_cut_exactly :
    (∀ (before part after : String) (node : Tree), node.Spans before part →
      node.text (before ++ part ++ after).toUTF8 = part) ∧
    (∀ (source : ByteArray) (left right whole : Tree), whole.Joins left right →
      Text.Boundary source left.stop →
        left.text source ++ right.text source = whole.text source) ∧
    (∀ (text : String) (offset : Nat), offset ≤ text.utf8ByteSize →
      (Text.Boundary text.toUTF8 offset ↔
        ∃ before after : String, text = before ++ after ∧ offset = before.utf8ByteSize)) ∧
    ∀ (source : ByteArray) (node : Tree) (text : String),
      node.text source = text ↔ Text.Utf8.Reads (node.spanned source) text.toList := by
  refine ⟨?_, ?_, ?_, ?_⟩
  · intro before part after node hspans
    exact hspans.text_eq after
  · intro source left right whole hjoins hboundary
    exact hjoins.text_append hboundary
  · intro text offset hoffset
    exact Text.boundary_toUTF8_iff hoffset
  · intro source node text
    exact text_eq_iff_reads

/-- An identifier between two offsets. -/
def identifierAt (start stop : Nat) : Tree :=
  .node "identifier" true none start stop 0 []

/-- A source with characters of two bytes, in a comment and at the end of an identifier. -/
def accentedSource : String :=
  "/*ä*/ " ++ "né" ++ " = 1"

/-- The identifier behind the comment has its characters as its text and can be put together from
its two letters.  Inside of the second letter there is no boundary, and a node that ends there has
a replacement character for the half of it. -/
theorem texts_cut_exactly_accented :
    (identifierAt 7 10).Spans "/*ä*/ " "né" ∧
    (identifierAt 7 10).text accentedSource.toUTF8 = "né" ∧
    (identifierAt 7 10).Joins (identifierAt 7 8) (identifierAt 8 10) ∧
    Text.Boundary accentedSource.toUTF8 8 ∧
    (identifierAt 7 8).text accentedSource.toUTF8 ++
        (identifierAt 8 10).text accentedSource.toUTF8 =
      (identifierAt 7 10).text accentedSource.toUTF8 ∧
    9 ≤ accentedSource.utf8ByteSize ∧
    (¬ ∃ before after : String, accentedSource = before ++ after ∧ 9 = before.utf8ByteSize) ∧
    (identifierAt 7 9).text accentedSource.toUTF8 = "n\uFFFD" := by
  obtain ⟨hspanned, hjoined, hboundary, hreading⟩ := texts_cut_exactly
  have hspans : (identifierAt 7 10).Spans "/*ä*/ " "né" := ⟨by decide, by decide⟩
  have hjoins : (identifierAt 7 10).Joins (identifierAt 7 8) (identifierAt 8 10) :=
    ⟨rfl, rfl, rfl, by decide, by decide⟩
  have hbetween : Text.Boundary accentedSource.toUTF8 8 := by decide
  have hinside : ¬ Text.Boundary accentedSource.toUTF8 9 := by decide
  have hsize : 9 ≤ accentedSource.utf8ByteSize := by decide
  have hreads : Text.Utf8.Reads ((identifierAt 7 9).spanned accentedSource.toUTF8)
      "n\uFFFD".toList := by
    rw [Text.Utf8.reads_iff, spanned, Text.byteArray_toList]
    decide
  refine ⟨hspans, hspanned _ _ _ _ hspans, hjoins, hbetween, hjoined _ _ _ _ hjoins hbetween,
    hsize, ?_, (hreading _ _ _).mpr hreads⟩
  rw [← hboundary accentedSource 9 hsize]
  exact hinside

end ReasonBindings.Tree
