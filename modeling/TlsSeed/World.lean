import TlsSeed.Script
import TlsSeed.Store.Shelf

/-! # Worlds in memory

A world holds files and a store, both in memory. Reading changes nothing in it, and a put changes
the store alone.
-/

namespace TlsSeed

structure World where
  files : File.Tree := .empty
  store : Store.Shelf := {}

/-- A world as it lies outside the program. -/
def World.outside : Outside World where
  read w path := (w.files.read path, w)
  put w client p :=
    let (answer, store) := w.store.put client p
    (answer, { w with store })

end TlsSeed
