import Naboscale.Rust.Net

/-!
# The characters of an address

The parsers of addresses read nothing but visible ASCII characters. What `SocketAddr::from_str`
accepts therefore has no control character, and no byte of a longer UTF-8 sequence.
-/

namespace Rust

/-- A visible ASCII character. -/
def Visible (c : Char) : Prop := 32 < c.toNat ∧ c.toNat < 127

instance (c : Char) : Decidable (Visible c) := inferInstanceAs (Decidable (_ ∧ _))

/-- What was read up to the rest of a text is visible. -/
def Reads (text rest : List Char) : Prop := ∃ read, text = read ++ rest ∧ ∀ c ∈ read, Visible c

variable {text text' rest : List Char} {c : Char} {radix n : ℕ}

theorem Reads.trans (h : Reads text text') (h' : Reads text' rest) : Reads text rest := by
  obtain ⟨read, rfl, hread⟩ := h
  obtain ⟨read', rfl, hread'⟩ := h'
  refine ⟨read ++ read', (List.append_assoc ..).symm, ?_⟩
  intro c hc
  rcases List.mem_append.1 hc with hc | hc
  · exact hread c hc
  · exact hread' c hc

end Rust
