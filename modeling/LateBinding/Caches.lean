import LateBinding.Invoker.Basic
import LateBinding.Invoker.Key
import LateBinding.Memo

/-!
# The caches

What has been looked up and compiled, in nine memos: one for the lookups by name and one for each
sort of invoker.
-/

namespace LateBinding

/-- What a memo remembers. -/
inductive Category where
  | lookups
  | getters
  | setters
  | constructors
  | methods
  | indexReaders
  | indexWriters
  | batchSetters
  | copiers
deriving DecidableEq

namespace Category

/-- All categories, in the order in which they are reported. -/
def all : List Category :=
  [lookups, getters, setters, constructors, methods, indexReaders, indexWriters, batchSetters,
    copiers]

/-- The name of a category in reports. -/
def name : Category → String
  | lookups => "lookups"
  | getters => "getters"
  | setters => "setters"
  | constructors => "constructors"
  | methods => "methods"
  | indexReaders => "indexer getters"
  | indexWriters => "indexer setters"
  | batchSetters => "multi-setters"
  | copiers => "mappers"

/-- The keys of a category. -/
@[reducible] def Key : Category → Type
  | lookups => QueryKey
  | copiers => CopyKey
  | _ => CallKey

/-- What is remembered in a category. -/
@[reducible] def Item : Category → Type
  | lookups => Member
  | getters => Getter
  | setters => Setter
  | constructors => Construction
  | methods => Method
  | indexReaders => IndexReader
  | indexWriters => IndexWriter
  | batchSetters => BatchSetter
  | copiers => Copier

instance (c : Category) : DecidableEq c.Key :=
  match c with
  | lookups => inferInstanceAs (DecidableEq QueryKey)
  | copiers => inferInstanceAs (DecidableEq CopyKey)
  | getters => inferInstanceAs (DecidableEq CallKey)
  | setters => inferInstanceAs (DecidableEq CallKey)
  | constructors => inferInstanceAs (DecidableEq CallKey)
  | methods => inferInstanceAs (DecidableEq CallKey)
  | indexReaders => inferInstanceAs (DecidableEq CallKey)
  | indexWriters => inferInstanceAs (DecidableEq CallKey)
  | batchSetters => inferInstanceAs (DecidableEq CallKey)

/-- Whether a key names a type. -/
def involves (type : TypeId) : (c : Category) → c.Key → Bool
  | lookups, k => QueryKey.involves k type
  | copiers, k => CopyKey.involves k type
  | getters, k => CallKey.involves k type
  | setters, k => CallKey.involves k type
  | constructors, k => CallKey.involves k type
  | methods, k => CallKey.involves k type
  | indexReaders, k => CallKey.involves k type
  | indexWriters, k => CallKey.involves k type
  | batchSetters, k => CallKey.involves k type

end Category

/-- The nine memos. -/
structure Caches where
  lookups : Memo QueryKey Member := {}
  getters : Memo CallKey Getter := {}
  setters : Memo CallKey Setter := {}
  constructors : Memo CallKey Construction := {}
  methods : Memo CallKey Method := {}
  indexReaders : Memo CallKey IndexReader := {}
  indexWriters : Memo CallKey IndexWriter := {}
  batchSetters : Memo CallKey BatchSetter := {}
  copiers : Memo CopyKey Copier := {}

namespace Caches

/-- The memo of a category. -/
def memo (cs : Caches) : (c : Category) → Memo c.Key c.Item
  | .lookups => cs.lookups
  | .getters => cs.getters
  | .setters => cs.setters
  | .constructors => cs.constructors
  | .methods => cs.methods
  | .indexReaders => cs.indexReaders
  | .indexWriters => cs.indexWriters
  | .batchSetters => cs.batchSetters
  | .copiers => cs.copiers

/-- Replaces the memo of a category. -/
def setMemo (cs : Caches) : (c : Category) → Memo c.Key c.Item → Caches
  | .lookups, m => { cs with lookups := m }
  | .getters, m => { cs with getters := m }
  | .setters, m => { cs with setters := m }
  | .constructors, m => { cs with constructors := m }
  | .methods, m => { cs with methods := m }
  | .indexReaders, m => { cs with indexReaders := m }
  | .indexWriters, m => { cs with indexWriters := m }
  | .batchSetters, m => { cs with batchSetters := m }
  | .copiers, m => { cs with copiers := m }

/-- The number of entries of all memos. -/
def size (cs : Caches) : Nat := Category.all.foldl (fun n c => n + (cs.memo c).size) 0

/-- Forgets what involves one of the types, in one category. -/
def purgeIn (types : List TypeId) (cs : Caches) (c : Category) : Nat × Caches :=
  let (removed, m) := (cs.memo c).purge fun k => types.any fun t => c.involves t k
  (removed, cs.setMemo c m)

/-- Forgets what involves one of the types, and tells how many entries those were. -/
def purge (cs : Caches) (types : List TypeId) : Nat × Caches :=
  Category.all.foldl (fun (removed, cs) c =>
    let (more, cs) := purgeIn types cs c
    (removed + more, cs)) (0, cs)

/-- Forgets everything and starts counting anew. -/
def clear (cs : Caches) : Caches :=
  Category.all.foldl (fun cs c => cs.setMemo c (cs.memo c).clear) cs

end Caches

end LateBinding
