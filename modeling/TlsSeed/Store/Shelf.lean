import TlsSeed.Item.Record
import TlsSeed.Store.Exchange

/-! # A store in memory

The store keeps one item for each table and hostname, and a put replaces the item that is there.
It can be told replies beforehand; it gives these first, oldest first, and then keeps nothing of
the request.
-/

namespace TlsSeed.Store

open Item

structure Stored where
  table : String
  hostname : String
  item : Entries

/-- A store in memory, with the requests that it received. -/
structure Shelf where
  items : List Stored := []
  replies : List Reply := []
  received : List Request := []

/-- The hostname under which an item is kept. -/
def hostnameOf? (item : Entries) : Option String :=
  match item.lookup Field.hostname.name with
  | some (.string s) => some s
  | _ => none

namespace Shelf

def isAt (table hostname : String) (s : Stored) : Bool :=
  s.table == table && s.hostname == hostname

def get? (s : Shelf) (table hostname : String) : Option Entries :=
  (s.items.find? (isAt table hostname)).map (·.item)

def insert (s : Shelf) (table hostname : String) (item : Entries) : Shelf :=
  { s with items := s.items.filter (!isAt table hostname ·) ++ [⟨table, hostname, item⟩] }

/-- The store with one more reply to give. -/
def expect (s : Shelf) (r : Reply) : Shelf :=
  { s with replies := s.replies ++ [r] }

def respond (status : Nat) (document : String) : Reply :=
  .response ⟨status, [], Text.Utf8.encode document⟩

/-- What the store replies when no reply was told beforehand, and what it then keeps. It
understands no conditions, and an item without a hostname has no place. -/
def apply (s : Shelf) (p : Put) : Reply × Shelf :=
  match p.condition, hostnameOf? p.item with
  | none, some hostname =>
    let old := if p.returnOld then s.get? p.table hostname else none
    let document := Json.objectOf (old.toList.map fun item =>
      ("Attributes", Json.objectOf (Attribute.entryWires item)))
    (respond 200 document, s.insert p.table hostname p.item)
  | _, _ =>
    (respond 400 (Json.objectOf [("__type", Json.quoted "ValidationException")]), s)

/-- The reply to a request, and the store after it. -/
def receive (s : Shelf) (r : Request) : Reply × Shelf :=
  let s := { s with received := s.received ++ [r] }
  match s.replies with
  | reply :: rest => (reply, { s with replies := rest })
  | [] => s.apply r.put

/-- What becomes of a put by a client, and the store after it. -/
def put (s : Shelf) (c : Client) (p : Put) : Except SendError PutOutput × Shelf :=
  match p.request c with
  | .error e => (.error e, s)
  | .ok r =>
    let (reply, s) := s.receive r
    (reply.outcome, s)

/-- The items in the order of their tables and hostnames. -/
def sorted (s : Shelf) : List Stored :=
  s.items.mergeSort fun a b =>
    a.table < b.table || (a.table == b.table && a.hostname ≤ b.hostname)

end Shelf

end TlsSeed.Store
