import Reroute.Shell.Pattern

/-!
Fields: what a word comes to.  An expansion leaves a row of glyphs, some of which quotes
protect, and regions of it that are split at separators.  Blanks between fields count once,
other separators mark fields off, and the parameters of a script stay apart in any case.
-/
namespace Reroute.Shell

/-- A character that an expansion has left, or the place of a quote. -/
inductive Glyph where
  | character (c : Char) (isProtected : Bool)
  | mark
deriving Repr, DecidableEq

/-- A region of glyphs that is split: at separators, or only where parameters meet. -/
structure Region where
  start : Nat
  finish : Nat
  apart : Bool
deriving Repr, DecidableEq

/-- How a glyph separates fields: not at all, as a blank, or as a mark of its own. -/
inductive Separation where
  | none
  | blank
  | hard
deriving Repr, DecidableEq

/-- A glyph with the number of the region that it stands in, counted from one. -/
structure Placed where
  glyph : Glyph
  separation : Separation
  region : Nat
  apart : Bool

/-- The text of glyphs. -/
def Glyph.text (glyphs : List Glyph) : Text :=
  glyphs.filterMap fun
    | .character c _ => some c
    | .mark => none

/-- The pattern that glyphs are: what is protected stands behind a backslash. -/
def Glyph.pattern (glyphs : List Glyph) : Text :=
  glyphs.flatMap fun
    | .character c true => ['\\', c]
    | .character c false => [c]
    | .mark => []

namespace Fields

/-- The character that stands between parameters. -/
def boundary : Char := '\x00'

/-- How a character separates fields in a region. -/
def separationOf (separators : Text) (apart : Bool) (c : Char) : Separation :=
  if apart then if c = boundary then .hard else .none
  else if c = boundary then .blank
  else if !separators.contains c then .none
  else if isWhite c then .blank
  else .hard

/-- Note for every glyph how it separates fields, given regions that follow each other. -/
def units (separators : Text) (glyphs : List Glyph) (regions : List Region) : List Placed :=
  go 0 glyphs (regions.zipIdx 1)
where
  /-- Go on at a position. -/
  go : Nat → List Glyph → List (Region × Nat) → List Placed
    | _, [], _ => []
    | position, glyph :: rest, regions =>
        let regions := regions.dropWhile fun entry => entry.1.finish ≤ position
        let unit : Placed := match regions, glyph with
          | (region, number) :: _, .character c _ =>
              if region.start ≤ position then
                ⟨glyph, separationOf separators region.apart c, number, region.apart⟩
              else ⟨glyph, .none, 0, false⟩
          | _, _ => ⟨glyph, .none, 0, false⟩
        unit :: go (position + 1) rest regions

/-- Step over the separators that belong to one, in its region: blanks, and one mark among
them. -/
def dropSeparation (region : Nat) : Bool → List Placed → List Placed
  | mayMark, unit :: rest =>
      if unit.region != region then unit :: rest
      else
        match unit.separation with
        | .none => unit :: rest
        | .blank => dropSeparation region mayMark rest
        | .hard => if mayMark then dropSeparation region false rest else unit :: rest
  | _, [] => []

/-- Stepping over separators never lengthens what is left. -/
theorem length_dropSeparation_le (region : Nat) (mayMark : Bool) (units : List Placed) :
    (dropSeparation region mayMark units).length ≤ units.length := by
  fun_induction dropSeparation region mayMark units <;> simp_all <;> omega

/-- Step over the blanks in front. -/
def dropBlanks (units : List Placed) : List Placed :=
  units.dropWhile fun unit => unit.separation = .blank && !unit.apart

/-- The glyphs of units. -/
def glyphsOf (units : List Placed) : List Glyph := units.map Placed.glyph

/-- The last field of a bounded number of fields: all that is left, less blanks behind it and
less a separator that nothing follows. -/
def lastField (units : List Placed) : List Glyph :=
  let units := dropBlanks units
  let field := units.takeWhile fun unit => unit.separation = .none
  match units.dropWhile fun unit => unit.separation = .none with
  | [] => glyphsOf field
  | separator :: rest =>
      if (dropSeparation separator.region (separator.separation = .blank) rest).isEmpty then
        glyphsOf field
      else
        glyphsOf (units.reverse.dropWhile fun unit => unit.separation = .blank).reverse

/-- Split units into fields.  The glyphs of the field that is read come in reverse.  With a
bound on the number of fields, the last one takes what is left. -/
def splitFrom (limit : Option Nat) (endsApart : Bool) (units : List Placed)
    (field : List Glyph) : List (List Glyph) :=
  match limit, field with
  | some 1, [] => [lastField units]
  | _, _ =>
    match units with
    | [] => if field.isEmpty && !endsApart then [] else [field.reverse]
    | unit :: rest =>
        if unit.separation = .none then splitFrom limit endsApart rest (unit.glyph :: field)
        else if unit.separation = .blank && field.isEmpty then
          splitFrom limit endsApart rest []
        else if unit.apart then field.reverse :: splitFrom limit endsApart rest []
        else
          have := length_dropSeparation_le unit.region (unit.separation = .blank) rest
          field.reverse ::
            splitFrom (limit.map fun n => n - 1) endsApart
              (dropSeparation unit.region (unit.separation = .blank) rest) []
termination_by units.length
decreasing_by all_goals simp only [List.length_cons]; omega

/-- The fields of glyphs.  The last one counts even if it is empty where the last region keeps
parameters apart. -/
def split (separators : Text) (glyphs : List Glyph) (regions : List Region) :
    List (List Glyph) :=
  let endsApart := (regions.getLast?.map Region.apart).getD false
  splitFrom none endsApart (units separators glyphs regions) []

/-- A given number of fields at most. -/
def splitInto (count : Nat) (separators : Text) (glyphs : List Glyph) (regions : List Region) :
    List (List Glyph) :=
  splitFrom (some count) false (units separators glyphs regions) []

/-- Forget the regions behind a position, except that the first one is kept as far as it is in
front of it. -/
def dropRegions (position : Nat) : List Region → List Region
  | [] => []
  | first :: rest =>
      if position < first.finish then
        if position < first.start then [] else [{ first with finish := position }]
      else
        let kept := rest.takeWhile fun region => region.start < position
        match kept.getLast? with
        | some last =>
            first :: (kept.dropLast ++ [{ last with finish := min last.finish position }])
        | none => [first]

end Fields

end Reroute.Shell
