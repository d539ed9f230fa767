import Storefront.Location

/-!
# Browsing history

A list of visited locations and the place of the current one.
-/

namespace Storefront

structure History where
  entries : List Location
  cursor : Nat
  cursor_lt : cursor < entries.length

namespace History

def start (initial : Location) : History :=
  ⟨[initial], 0, by simp⟩

def current (h : History) : Location :=
  h.entries.get ⟨h.cursor, h.cursor_lt⟩

def size (h : History) : Nat :=
  h.entries.length

/-- A new entry after the current one; the entries ahead are given up. -/
def push (h : History) (l : Location) : History :=
  ⟨h.entries.take (h.cursor + 1) ++ [l], h.cursor + 1, by
    have := h.cursor_lt
    simp only [List.length_append, List.length_take, List.length_singleton]
    omega⟩

/-- Another location in place of the current one. -/
def replace (h : History) (l : Location) : History :=
  ⟨h.entries.set h.cursor l, h.cursor, by simpa using h.cursor_lt⟩

/-- One entry back, unless the current one is the first. -/
def back? (h : History) : Option History :=
  if h.cursor = 0 then none
  else some ⟨h.entries, h.cursor - 1, by have := h.cursor_lt; omega⟩

/-- One entry ahead, unless the current one is the last. -/
def forward? (h : History) : Option History :=
  if hlt : h.cursor + 1 < h.entries.length then some ⟨h.entries, h.cursor + 1, hlt⟩ else none

end History

end Storefront
