import HopProbe.Toml.Statement

/-!
# Documents of TOML

The table that the statements of a text build up, one after the other. A byte
order mark in front of the text is no part of it.
-/

set_option autoImplicit false

namespace HopProbe.Toml

/-- The tables built so far, and the way to the one that assignments go to. -/
structure Draft where
  root : Table
  path : List String

namespace Draft

def empty : Draft := ⟨[], []⟩

def step (d : Draft) : Statement → Option Draft
  | .assign key value =>
    (d.root.reach .header (fun _ => Table.assign key value) d.path .header).map (⟨·, d.path⟩)
  | .table key => (d.root.openTable key).map (⟨·, key.path ++ [key.name]⟩)
  | .element key => (d.root.openElement key).map (⟨·, key.path ++ [key.name]⟩)

end Draft

def Table.ofStatements? (statements : List Statement) : Option Table :=
  (statements.foldlM Draft.step .empty).map Draft.root

def withoutMark : List Char → List Char
  | '\ufeff' :: rest => rest
  | cs => cs

def Table.ofText? (text : List Char) : Option Table :=
  (statements? (withoutMark text)).bind Table.ofStatements?

end HopProbe.Toml
