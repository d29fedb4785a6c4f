import FloatingAddress.Record

/-!
# The accepted records

A store holds the records of all accepted ranges and floating addresses, each under its identity,
so accepting the same identity again replaces the record. Both collections are read in the order
of the identities. A store is a value: whoever keeps it keeps the records as they were.
-/

namespace FloatingAddress

/-- A record that should be removed is not there. -/
inductive StoreError
  | rangeNotFound (name : String)
  | floatingNotFound (key : RecordKey)
deriving DecidableEq, Repr

def StoreError.message : StoreError → String
  | .rangeNotFound name => s!"FloatingIPRange not found in store: {name}"
  | .floatingNotFound key => s!"FloatingIP not found in store: {key}"

/-- The records of all accepted ranges and floating addresses. -/
structure Store where
  rangeRecords : Std.ExtTreeMap String RangeRecord := ∅
  floatingRecords : Std.ExtTreeMap RecordKey FloatingRecord := ∅

namespace Store

def empty : Store := {}

def range? (store : Store) (name : String) : Option RangeRecord := store.rangeRecords[name]?

def floating? (store : Store) (key : RecordKey) : Option FloatingRecord :=
  store.floatingRecords[key]?

def putRange (store : Store) (record : RangeRecord) : Store :=
  { store with rangeRecords := store.rangeRecords.insert record.name record }

def putFloating (store : Store) (record : FloatingRecord) : Store :=
  { store with floatingRecords := store.floatingRecords.insert record.key record }

def removeRange (store : Store) (name : String) : Except StoreError (RangeRecord × Store) :=
  match store.range? name with
  | none => .error (.rangeNotFound name)
  | some record => .ok (record, { store with rangeRecords := store.rangeRecords.erase name })

def removeFloating (store : Store) (key : RecordKey) :
    Except StoreError (FloatingRecord × Store) :=
  match store.floating? key with
  | none => .error (.floatingNotFound key)
  | some record => .ok (record, { store with floatingRecords := store.floatingRecords.erase key })

/-- All range records, by name. -/
def ranges (store : Store) : List RangeRecord := store.rangeRecords.toList.map (·.2)

/-- All records of floating addresses, by namespace and name. -/
def floatings (store : Store) : List FloatingRecord := store.floatingRecords.toList.map (·.2)

/-- The floating addresses that are drawn from a range. -/
def floatingsIn (store : Store) (range : String) : List FloatingRecord :=
  store.floatings.filter (·.range = range)

@[simp] theorem range?_putRange (store : Store) (record : RangeRecord) (name : String) :
    (store.putRange record).range? name =
      if record.name = name then some record else store.range? name := by
  simp [putRange, range?, Std.ExtTreeMap.getElem?_insert]

@[simp] theorem floating?_putRange (store : Store) (record : RangeRecord) (key : RecordKey) :
    (store.putRange record).floating? key = store.floating? key := rfl

@[simp] theorem range?_putFloating (store : Store) (record : FloatingRecord) (name : String) :
    (store.putFloating record).range? name = store.range? name := rfl

@[simp] theorem floating?_putFloating (store : Store) (record : FloatingRecord) (key : RecordKey) :
    (store.putFloating record).floating? key =
      if record.key = key then some record else store.floating? key := by
  simp [putFloating, floating?, Std.ExtTreeMap.getElem?_insert]

end Store

end FloatingAddress
