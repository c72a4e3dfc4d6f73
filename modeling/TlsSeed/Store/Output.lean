import TlsSeed.Item.Wire
import TlsSeed.Number.Numeral
import TlsSeed.Number.Shortest

/-! # What the store answers to a put

The acknowledgement of a put: the replaced item if it was asked for, the capacity that was used, and
the number of the request. Every part may be absent, and members without a name here are skipped.
-/

namespace TlsSeed.Store

open Item Json Number Text

/-- Units of capacity that a table or an index used. -/
structure Capacity where
  read : Option Binary64 := none
  write : Option Binary64 := none
  units : Option Binary64 := none

/-- Bytes of requests that an index over vectors used. -/
structure VectorCapacity where
  searchBytes : Option Binary64 := none
  writeBytes : Option Binary64 := none

structure ConsumedCapacity where
  tableName : Option String := none
  units : Option Binary64 := none
  read : Option Binary64 := none
  write : Option Binary64 := none
  table : Option Capacity := none
  localIndexes : Option (List (String × Capacity)) := none
  globalIndexes : Option (List (String × Capacity)) := none
  vectorIndexes : Option (List (String × VectorCapacity)) := none

/-- The size of the group of items that a put touched. -/
structure CollectionMetrics where
  key : Option Entries := none
  sizeRange : Option (List Binary64) := none

structure PutOutput where
  attributes : Option Entries := none
  consumed : Option ConsumedCapacity := none
  metrics : Option CollectionMetrics := none
  requestId : Option String := none

/-! ## Outlines -/

def numberOutline (n : Binary64) : Outline :=
  .text n.text

def entriesOutline (es : Entries) : Outline :=
  .map (Attribute.entryOutlines es)

def Capacity.outline (c : Capacity) : Outline :=
  .fields "Capacity" [("read_capacity_units", .option (c.read.map numberOutline)),
    ("write_capacity_units", .option (c.write.map numberOutline)),
    ("capacity_units", .option (c.units.map numberOutline))]

def VectorCapacity.outline (c : VectorCapacity) : Outline :=
  .fields "VectorCapacity"
    [("vector_search_request_bytes", .option (c.searchBytes.map numberOutline)),
     ("vector_write_request_bytes", .option (c.writeBytes.map numberOutline))]

def indexesOutline (f : α → Outline) (is : List (String × α)) : Outline :=
  .map (is.map fun (name, c) => (Quoted.quote name, f c))

def ConsumedCapacity.outline (c : ConsumedCapacity) : Outline :=
  .fields "ConsumedCapacity" [("table_name", .option (c.tableName.map Attribute.textOutline)),
    ("capacity_units", .option (c.units.map numberOutline)),
    ("read_capacity_units", .option (c.read.map numberOutline)),
    ("write_capacity_units", .option (c.write.map numberOutline)),
    ("table", .option (c.table.map Capacity.outline)),
    ("local_secondary_indexes", .option (c.localIndexes.map (indexesOutline Capacity.outline))),
    ("global_secondary_indexes",
      .option (c.globalIndexes.map (indexesOutline Capacity.outline))),
    ("vector_indexes", .option (c.vectorIndexes.map (indexesOutline VectorCapacity.outline)))]

def CollectionMetrics.outline (m : CollectionMetrics) : Outline :=
  .fields "ItemCollectionMetrics" [("item_collection_key", .option (m.key.map entriesOutline)),
    ("size_estimate_range_gb", .option (m.sizeRange.map fun ns => .list (ns.map numberOutline)))]

def PutOutput.outline (o : PutOutput) : Outline :=
  .fields "PutItemOutput" [("attributes", .option (o.attributes.map entriesOutline)),
    ("consumed_capacity", .option (o.consumed.map ConsumedCapacity.outline)),
    ("item_collection_metrics", .option (o.metrics.map CollectionMetrics.outline)),
    ("_request_id", .option (o.requestId.map Attribute.textOutline))]

/-! ## Reading -/

/-- A part that may be null, which is the same as absent. -/
def nullable (f : Value → Option α) : Value → Option (Option α)
  | .null => some none
  | v => (f v).map some

/-- A finite number, or a string with the word of a number that is not finite. -/
def numberOf? : Value → Option Binary64
  | .number n => if n.isFinite then some n else none
  | .string raw => do
    let n := (← Numeral.read? (← unescape? raw)).toBinary64
    if n.isFinite then none else return n
  | _ => none

/-- A structure from the members of an object, one after the other. -/
def membersOf? (step : β → String → Value → Option β) (start : β) : Value → Option β
  | .object ms => ms.foldlM (fun b m => do step b (← Json.text? m.1) m.2) start
  | _ => none

def itemsOf? (f : Value → Option α) : Value → Option (List α)
  | .array vs => vs.mapM f
  | _ => none

def Capacity.add (c : Capacity) : String → Value → Option Capacity
  | "ReadCapacityUnits", v => (nullable numberOf? v).map fun n => { c with read := n }
  | "WriteCapacityUnits", v => (nullable numberOf? v).map fun n => { c with write := n }
  | "CapacityUnits", v => (nullable numberOf? v).map fun n => { c with units := n }
  | _, v => v.skip? c

def VectorCapacity.add (c : VectorCapacity) : String → Value → Option VectorCapacity
  | "VectorSearchRequestBytes", v =>
    (nullable numberOf? v).map fun n => { c with searchBytes := n }
  | "VectorWriteRequestBytes", v =>
    (nullable numberOf? v).map fun n => { c with writeBytes := n }
  | _, v => v.skip? c

/-- What is told of each index by its name. A name that comes again takes the new value. -/
def indexesOf? (f : Value → Option α) : Value → Option (List (String × α)) :=
  membersOf? (fun is name v => do
    return is.filter (·.1 != name) ++ [(name, ← f v)]) []

def ConsumedCapacity.add (c : ConsumedCapacity) : String → Value → Option ConsumedCapacity
  | "TableName", v => (nullable Attribute.stringOf? v).map fun s => { c with tableName := s }
  | "CapacityUnits", v => (nullable numberOf? v).map fun n => { c with units := n }
  | "ReadCapacityUnits", v => (nullable numberOf? v).map fun n => { c with read := n }
  | "WriteCapacityUnits", v => (nullable numberOf? v).map fun n => { c with write := n }
  | "Table", v => (nullable (membersOf? Capacity.add {}) v).map fun t => { c with table := t }
  | "LocalSecondaryIndexes", v =>
    (nullable (indexesOf? (membersOf? Capacity.add {})) v).map fun is =>
      { c with localIndexes := is }
  | "GlobalSecondaryIndexes", v =>
    (nullable (indexesOf? (membersOf? Capacity.add {})) v).map fun is =>
      { c with globalIndexes := is }
  | "VectorIndexes", v =>
    (nullable (indexesOf? (membersOf? VectorCapacity.add {})) v).map fun is =>
      { c with vectorIndexes := is }
  | _, v => v.skip? c

/-- The size of a group of items after one more member. It is the second level of its document. -/
def CollectionMetrics.add (m : CollectionMetrics) : String → Value → Option CollectionMetrics
  | "ItemCollectionKey", v =>
    (nullable (Attribute.entriesOf? (Attribute.maxLevels - 2)) v).map fun es => { m with key := es }
  | "SizeEstimateRangeGB", v =>
    (nullable (itemsOf? numberOf?) v).map fun ns => { m with sizeRange := ns }
  | _, v => v.skip? m

/-- The acknowledgement after one more member. It is the first level of its document. -/
def PutOutput.add (o : PutOutput) : String → Value → Option PutOutput
  | "Attributes", v =>
    (nullable (Attribute.entriesOf? (Attribute.maxLevels - 1)) v).map fun es =>
      { o with attributes := es }
  | "ConsumedCapacity", v =>
    (nullable (membersOf? ConsumedCapacity.add {}) v).map fun c => { o with consumed := c }
  | "ItemCollectionMetrics", v =>
    (nullable (membersOf? CollectionMetrics.add {}) v).map fun m => { o with metrics := m }
  | _, v => v.skip? o

def PutOutput.ofValue? : Value → Option PutOutput :=
  membersOf? PutOutput.add {}

end TlsSeed.Store
