import JavaSource.Template.Basic

/-!
# A cache of templates

Reading a template is worth doing once.  The cache keeps each template under its source and its delimiters; a source
that cannot be read leaves no trace.  Every template that is read gets a serial number, by which two look-ups can be
seen to share it.
-/

namespace JavaSource

/-- A template with the number of its reading. -/
structure SharedTemplate where
  serial : Nat
  template : Template

/-- Templates that were read before. -/
structure TemplateCache where
  entries : List ((Text × Markers) × SharedTemplate) := []
  /-- How many templates have been read. -/
  reads : Nat := 0

namespace TemplateCache

/-- The number of templates in the cache. -/
def size (c : TemplateCache) : Nat := c.entries.length

/-- The cache holds nothing. -/
def isEmpty (c : TemplateCache) : Bool := c.size == 0

/-- Looks a template up, or reads it and keeps it. -/
def get (source : Text) (m : Markers) (c : TemplateCache) :
    Except ParseError SharedTemplate × TemplateCache :=
  match c.entries.lookup (source, m) with
  | some shared => (.ok shared, c)
  | none =>
    match Template.parse source m with
    | .error e => (.error e, c)
    | .ok t =>
      let shared : SharedTemplate := ⟨c.reads, t⟩
      (.ok shared, { entries := c.entries ++ [((source, m), shared)], reads := c.reads + 1 })

/-- Forgets all templates. -/
def clear (c : TemplateCache) : TemplateCache := { c with entries := [] }

end TemplateCache

end JavaSource
