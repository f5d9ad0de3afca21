import SqlCompose.Compile.Fragment
import SqlCompose.Proofs.Params.Allocation
/-!
# Filling templates

A `Template` is text with holes, and filling it puts names into the holes from left to
right. The text of a fragment is its template filled with the placeholders that were
allocated for its slots (`Fragment.exists_grows_fill`): which names these are depends on
the allocator, and nothing else does.
-/

namespace SqlCompose

/-- Text with holes: some text, or a hole. -/
abbrev Template := List (Option String)

namespace Template

/-- The number of holes. -/
def holes (T : Template) : Nat := T.countP Option.isNone

/-- The text in which the holes have names, from left to right. -/
def fill : Template → List String → String
  | [], _ => ""
  | some s :: T, names => s ++ fill T names
  | none :: T, [] => fill T []
  | none :: T, name :: names => name ++ fill T names

end Template

namespace Fragment

/-- The fragment with holes in place of its slots. -/
def template (f : Fragment) : Template :=
  f.map fun
    | .text s => some s
    | .slot _ => none

theorem holes_template (f : Fragment) : f.template.holes = f.values.length := by
  induction f with
  | nil => rfl
  | cons p f ih =>
    cases p <;> simpa [template, values, Template.holes] using ih

/-- **Filling a fragment.** A run of bindings gives its values numbers, and the text is
its template with their placeholders. -/
theorem exists_grows_fill (f : Fragment) (a : Allocator) :
    ∃ ns, a.Grows (fill a f).2 ns f.values ∧
      (fill a f).1 = f.template.fill (ns.map placeholderName) := by
  induction f generalizing a with
  | nil => exact ⟨[], .refl a, rfl⟩
  | cons p f ih =>
    cases p with
    | text s =>
      obtain ⟨ns, hgrows, htext⟩ := ih a
      refine ⟨ns, hgrows, ?_⟩
      change s ++ (fill a f).1 = s ++ (template f).fill (ns.map placeholderName)
      rw [htext]
    | slot v =>
      obtain ⟨ns, hgrows, htext⟩ := ih (a.bind v).2
      -- one binding for the slot, and the run of the rest behind it
      refine ⟨a.free :: ns, (a.grows_bind v).trans hgrows, ?_⟩
      change (a.bind v).1 ++ (fill (a.bind v).2 f).1 =
        placeholderName a.free ++ (template f).fill (ns.map placeholderName)
      rw [htext, a.bind_fst]

end Fragment

end SqlCompose
