import Mathlib.Logic.Basic
import LateBinding.Caches
import LateBinding.Invoker.OfMember
import LateBinding.Invoker.Run

/-!
# The sorts of invokers

Six sorts of invokers serve one member each. They are remembered under the key of the member and
made in the same way, so what is said about them is said once for all sorts.
-/

namespace LateBinding

/-- A sort of invokers that serve one member. -/
inductive InvokerSort where
  | getter
  | setter
  | method
  | constructor
  | indexReader
  | indexWriter

namespace InvokerSort

/-- Where invokers of a sort are remembered. -/
@[reducible] def category : InvokerSort → Category
  | getter => .getters
  | setter => .setters
  | method => .methods
  | constructor => .constructors
  | indexReader => .indexReaders
  | indexWriter => .indexWriters

/-- The invokers of a sort. -/
abbrev Item (sort : InvokerSort) : Type := sort.category.Item

/-- The key of a member, as a key of the category. -/
def key : (sort : InvokerSort) → CallKey → sort.category.Key
  | getter, k => k
  | setter, k => k
  | method, k => k
  | constructor, k => k
  | indexReader, k => k
  | indexWriter, k => k

/-- The invoker of a member for a target type, freshly made. -/
def compile (reg : Registry) (target : TypeId) (m : Member) :
    (sort : InvokerSort) → Except Fault sort.Item
  | getter => Getter.ofMember reg target m
  | setter => Setter.ofMember reg target m
  | method => Method.ofMember reg target m
  | constructor => Construction.ofMember reg m
  | indexReader => IndexReader.ofMember reg target m
  | indexWriter => IndexWriter.ofMember reg target m

/-- Two invokers do the same to every receiver, argument list and value, whatever native bodies
do. -/
def Alike (reg : Registry) : (sort : InvokerSort) → sort.Item → sort.Item → Prop
  | getter, g, g' => ∀ native receiver,
      g.run ⟨reg, native⟩ receiver = g'.run ⟨reg, native⟩ receiver
  | setter, s, s' => ∀ native receiver new,
      s.run ⟨reg, native⟩ receiver new = s'.run ⟨reg, native⟩ receiver new
  | method, m, m' => ∀ native receiver arguments,
      m.run ⟨reg, native⟩ receiver arguments = m'.run ⟨reg, native⟩ receiver arguments
  | constructor, c, c' => ∀ native arguments,
      c.run ⟨reg, native⟩ arguments = c'.run ⟨reg, native⟩ arguments
  | indexReader, x, x' => ∀ native receiver indices,
      x.run ⟨reg, native⟩ receiver indices = x'.run ⟨reg, native⟩ receiver indices
  | indexWriter, x, x' => ∀ native receiver indices new,
      x.run ⟨reg, native⟩ receiver indices new = x'.run ⟨reg, native⟩ receiver indices new

variable {sort : InvokerSort}

lemma key_inj {k k' : CallKey} : sort.key k = sort.key k' ↔ k = k' := by
  cases sort <;> rfl

lemma category_ne_lookups : sort.category ≠ .lookups := by
  cases sort <;> simp

lemma Alike.refl (reg : Registry) (x : sort.Item) : sort.Alike reg x x := by
  cases sort <;> simp [Alike]

end InvokerSort

end LateBinding
