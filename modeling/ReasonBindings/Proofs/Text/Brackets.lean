import Mathlib.Algebra.Ring.Int.Defs
import ReasonBindings.Proofs.Lists

/-!
# Parentheses and arrows

A function type is a chain of types with arrows between them, and a type that is a
function type itself stands in parentheses, so the number of arguments of a function
can be read off the arrows outside of all parentheses.  The module counts these arrows
in a text and says how the number behaves when texts are put together: it is the sum
for texts that follow each other, and zero for a text in parentheses.

For this to hold no arrow may come about where two texts meet, and no sign of equality
may stand in a text other than as part of an arrow; the latter also shows where a type
ends that is followed by such a sign.  `HasArrows` collects all of this.
-/

namespace ReasonBindings.Text

/-! ### Parentheses -/

/-- What a character adds to the number of open parentheses. -/
def bracket (c : Char) : Int :=
  if c = '(' then 1 else if c = ')' then -1 else 0

/-- The number of parentheses that a text opens, less the number of those that it closes. -/
def depth (text : List Char) : Int :=
  (text.map bracket).sum

/-- No prefix of the text closes more parentheses than it opens, and all of them are closed at the
end. -/
structure Balanced (text : List Char) : Prop where
  opened : ∀ before, before <+: text → 0 ≤ depth before
  closed : depth text = 0

@[simp] lemma depth_nil : depth [] = 0 := rfl

@[simp] lemma depth_cons (c : Char) (text : List Char) :
    depth (c :: text) = bracket c + depth text := rfl

@[simp] lemma depth_append (first second : List Char) :
    depth (first ++ second) = depth first + depth second := by
  induction first with
  | nil => simp
  | cons c rest ih => rw [List.cons_append, depth_cons, depth_cons, ih, Int.add_assoc]

/-- A text without parentheses opens none and closes none. -/
lemma depth_eq_zero {text : List Char} (hopening : '(' ∉ text) (hclosing : ')' ∉ text) :
    depth text = 0 := by
  induction text with
  | nil => rfl
  | cons c rest ih =>
    simp only [List.mem_cons, not_or] at hopening hclosing
    rw [depth_cons, ih hopening.2 hclosing.2, bracket, if_neg (Ne.symm hopening.1),
      if_neg (Ne.symm hclosing.1), Int.add_zero]

namespace Balanced

/-- A text without parentheses is balanced. -/
lemma of_noBrackets {text : List Char} (hopening : '(' ∉ text) (hclosing : ')' ∉ text) :
    Balanced text := by
  refine ⟨fun before hbefore => ?_, depth_eq_zero hopening hclosing⟩
  have hnone : depth before = 0 :=
    depth_eq_zero (fun hmem => hopening (hbefore.subset hmem))
      fun hmem => hclosing (hbefore.subset hmem)
  exact Int.le_of_eq hnone.symm

/-- Two balanced texts after each other are balanced. -/
lemma append {first second : List Char} (hfirst : Balanced first) (hsecond : Balanced second) :
    Balanced (first ++ second) := by
  refine ⟨fun before hbefore => ?_, ?_⟩
  · rcases prefix_append_cases hbefore with hinside | ⟨part, rfl, hpart⟩
    · exact hfirst.opened before hinside
    · rw [depth_append, hfirst.closed, Int.zero_add]
      exact hsecond.opened part hpart
  · rw [depth_append, hfirst.closed, hsecond.closed, Int.add_zero]

/-- A balanced text in parentheses is balanced. -/
lemma parenthesized {text : List Char} (h : Balanced text) : Balanced ('(' :: (text ++ [')'])) := by
  have hopen : bracket '(' = 1 := rfl
  have hclose : depth [')'] = -1 := rfl
  refine ⟨fun before hbefore => ?_, ?_⟩
  · rcases List.prefix_cons_iff.mp hbefore with rfl | ⟨inside, rfl, hinside⟩
    · exact Int.le_refl 0
    · rw [depth_cons, hopen]
      rcases List.prefix_concat_iff.mp hinside with rfl | hinside
      · rw [depth_append, h.closed, hclose]
        decide
      · have hpositive := h.opened inside hinside
        omega
  · rw [depth_cons, depth_append, h.closed, hopen, hclose]
    rfl

end Balanced

/-! ### Arrows -/

/-- The number of arrows in a text that stand outside of all parentheses, where the given number of
parentheses is open before the text. -/
def outerArrows (level : Int) : List Char → Nat
  | [] => 0
  | c :: rest =>
    (if level = 0 ∧ ['=', '>'] <+: c :: rest then 1 else 0) + outerArrows (level + bracket c) rest

/-- The arrows of a text are found after another one unless an arrow comes about where they meet. -/
lemma outerArrows_append (level : Int) {first second : List Char} (h : second.head? ≠ some '>') :
    outerArrows level (first ++ second) =
      outerArrows level first + outerArrows (level + depth first) second := by
  induction first generalizing level with
  | nil => simp [outerArrows]
  | cons c rest ih =>
    have hhere : ['=', '>'] <+: c :: (rest ++ second) ↔ ['=', '>'] <+: c :: rest := by
      cases rest with
      | nil =>
        cases second with
        | nil => simp
        | cons next others =>
          have hnext : ¬ '>' = next := fun heq => h (by rw [← heq]; rfl)
          simp [List.cons_prefix_cons, hnext]
      | cons next others => simp [List.cons_prefix_cons]
    simp only [List.cons_append, outerArrows, hhere, ih, depth_cons, Nat.add_assoc, Int.add_assoc]

/-- There are no outer arrows where some parenthesis is open all the time. -/
lemma outerArrows_inside {level : Int} {text : List Char}
    (h : ∀ before, before <+: text → 0 < level + depth before) : outerArrows level text = 0 := by
  induction text generalizing level with
  | nil => rfl
  | cons c rest ih =>
    have hlevel : level ≠ 0 := by
      have hpositive := h [] (List.nil_prefix)
      rw [depth_nil] at hpositive
      omega
    have hrest : outerArrows (level + bracket c) rest = 0 := by
      refine ih fun before hbefore => ?_
      have hpositive := h (c :: before) (List.cons_prefix_cons.mpr ⟨rfl, hbefore⟩)
      rw [depth_cons] at hpositive
      omega
    rw [outerArrows, hrest, if_neg fun hand => hlevel hand.1]

/-- A text without signs of equality has no arrows. -/
lemma outerArrows_eq_zero (level : Int) {text : List Char} (h : '=' ∉ text) :
    outerArrows level text = 0 := by
  induction text generalizing level with
  | nil => rfl
  | cons c rest ih =>
    simp only [List.mem_cons, not_or] at h
    have hhere : ¬ ['=', '>'] <+: c :: rest := fun hprefix =>
      h.1 (List.cons_prefix_cons.mp hprefix).1
    rw [outerArrows, ih _ h.2, if_neg fun hand => hhere hand.2]

/-! ### Texts with a known number of arrows -/

/-- Every sign of equality in a text begins an arrow. -/
def SignsAreArrows (text : List Char) : Prop :=
  ∀ rest, '=' :: rest <:+ text → rest.head? = some '>'

/-- A text without signs of equality. -/
lemma SignsAreArrows.of_noSigns {text : List Char} (h : '=' ∉ text) : SignsAreArrows text :=
  fun _ hrest => absurd (hrest.subset List.mem_cons_self) h

/-- The signs of two texts are arrows in both texts together. -/
lemma SignsAreArrows.append {first second : List Char} (hfirst : SignsAreArrows first)
    (hsecond : SignsAreArrows second) : SignsAreArrows (first ++ second) := by
  intro rest hrest
  obtain ⟨before, hwhole⟩ := hrest
  rcases List.append_eq_append_iff.mp hwhole with ⟨part, rfl, hpart⟩ | ⟨part, rfl, hpart⟩
  · -- The sign stands in the first text unless that ends right before it.
    cases part with
    | nil => exact hsecond rest (hpart ▸ List.suffix_rfl)
    | cons c inside =>
      obtain rfl : '=' = c := (List.cons.inj hpart).1
      have hrest : rest = inside ++ second := (List.cons.inj hpart).2
      have hinside := hfirst inside (List.suffix_append before _)
      rw [hrest, List.head?_append, hinside]
      rfl
  · exact hsecond rest (hpart ▸ List.suffix_append part _)

/-- A balanced text with the given number of outer arrows, whose signs of equality all belong to
arrows, and that does not make an arrow out of a sign before it. -/
structure HasArrows (count : Nat) (text : String) : Prop where
  balanced : Balanced text.toList
  outer : outerArrows 0 text.toList = count
  start : text.toList.head? ≠ some '>'
  signs : SignsAreArrows text.toList

/-- A text without parentheses and without the signs of which an arrow consists. -/
def Plain (text : String) : Prop :=
  ∀ c ∈ text.toList, c ∉ ['(', ')', '=', '>']

-- The instance for statements about all characters would go through every one of them.
instance (text : String) : Decidable (Plain text) :=
  List.decidableBAll (fun c => c ∉ ['(', ')', '=', '>']) text.toList

/-- Two texts are plain together when both are. -/
lemma Plain.append {first second : String} (hfirst : Plain first) (hsecond : Plain second) :
    Plain (first ++ second) := by
  unfold Plain
  rw [String.toList_append]
  exact List.forall_mem_append.mpr ⟨hfirst, hsecond⟩

namespace HasArrows

variable {count other : Nat} {text first second : String}

/-- A text without parentheses and signs of equality has no arrows. -/
lemma of_noSigns (hopening : '(' ∉ text.toList) (hclosing : ')' ∉ text.toList)
    (hsign : '=' ∉ text.toList) (hstart : text.toList.head? ≠ some '>') : HasArrows 0 text :=
  ⟨.of_noBrackets hopening hclosing, outerArrows_eq_zero 0 hsign, hstart, .of_noSigns hsign⟩

/-- A plain text has no arrows. -/
lemma of_plain (h : Plain text) : HasArrows 0 text := by
  refine of_noSigns ?_ ?_ ?_ fun hstart => ?_
  · exact fun hmem => h '(' hmem (by decide)
  · exact fun hmem => h ')' hmem (by decide)
  · exact fun hmem => h '=' hmem (by decide)
  · exact h '>' (List.mem_of_head? hstart) (by decide)

/-- The arrows of two texts after each other are those of both. -/
lemma append (hfirst : HasArrows count first) (hsecond : HasArrows other second) :
    HasArrows (count + other) (first ++ second) := by
  rw [← hfirst.outer, ← hsecond.outer]
  refine ⟨?_, ?_, ?_, ?_⟩
  · rw [String.toList_append]
    exact hfirst.balanced.append hsecond.balanced
  · rw [String.toList_append, outerArrows_append 0 hsecond.start, hfirst.balanced.closed]
    rfl
  · rw [String.toList_append, List.head?_append]
    cases hhead : first.toList.head? with
    | none => exact hsecond.start
    | some c =>
      rw [Option.some_or, ← hhead]
      exact hfirst.start
  · rw [String.toList_append]
    exact hfirst.signs.append hsecond.signs

/-- The arrows of a text in parentheses do not count. -/
lemma parenthesized (h : HasArrows count text) : HasArrows 0 ("(" ++ text ++ ")") := by
  have hlist : ("(" ++ text ++ ")").toList = '(' :: (text.toList ++ [')']) := by
    simp
  have hopened : ∀ before, before <+: text.toList → 0 < 0 + bracket '(' + depth before := by
    intro before hbefore
    have hpositive := h.balanced.opened before hbefore
    have hopen : bracket '(' = 1 := rfl
    omega
  refine ⟨?_, ?_, ?_, ?_⟩
  · rw [hlist]
    exact h.balanced.parenthesized
  · have hhere : ¬ ['=', '>'] <+: '(' :: (text.toList ++ [')']) := fun hprefix =>
      absurd (List.cons_prefix_cons.mp hprefix).1 (by decide)
    rw [hlist, outerArrows, if_neg fun hand => hhere hand.2, outerArrows_append _ (by decide),
      outerArrows_inside hopened, outerArrows_eq_zero _ (by decide)]
  · rw [hlist, List.head?_cons]
    decide
  · have hparts : '(' :: (text.toList ++ [')']) = ['('] ++ (text.toList ++ [')']) := rfl
    rw [hlist, hparts]
    exact (SignsAreArrows.of_noSigns (by decide)).append
      (h.signs.append (.of_noSigns (by decide)))

/-- Texts with separators between them have the arrows of the separators when they have none of
their own. -/
lemma intercalate {separator : String} (hseparator : HasArrows count separator) :
    ∀ {texts : List String}, (∀ text ∈ texts, HasArrows 0 text) →
      HasArrows ((texts.length - 1) * count) (separator.intercalate texts)
  | [], _ => by
    have hempty : HasArrows 0 "" := of_plain (by decide)
    simpa using hempty
  | [text], h => by simpa using h text
  | text :: next :: texts, h => by
    obtain ⟨htext, hrest⟩ := List.forall_mem_cons.mp h
    have hchain := (htext.append hseparator).append (intercalate hseparator hrest)
    have hcount : 0 + count + ((next :: texts).length - 1) * count =
        ((text :: next :: texts).length - 1) * count := by
      simp only [List.length_cons, Nat.add_sub_cancel, Nat.zero_add]
      rw [Nat.add_comm, Nat.succ_mul]
    rw [String.intercalate_cons_cons, ← hcount]
    exact hchain

end HasArrows

end ReasonBindings.Text
