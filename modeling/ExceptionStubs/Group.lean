import ExceptionStubs.MethodRecord
/-!
# Groups

Records are grouped by the interface that owns them. Groups come in the order in which their
interfaces first occur and keep their records in input order. A group is never empty, and all its
records have the owner it is named for; both facts are part of the type.
-/

namespace ExceptionStubs

structure Group where
  first : MethodRecord
  rest : List MethodRecord
  owned : ∀ r ∈ rest, r.owner = first.owner

namespace Group

def key (g : Group) : GroupKey := g.first.owner

def records (g : Group) : List MethodRecord := g.first :: g.rest

def interface (g : Group) : String := g.key.interface.text

def package (g : Group) : String := g.key.package.text

def qualifiedInterface (g : Group) : String := g.key.qualifiedInterface

def implementationName (g : Group) : String := g.interface ++ "Impl"

def single (r : MethodRecord) : Group := ⟨r, [], by simp⟩

def push (g : Group) (r : MethodRecord) (h : r.owner = g.key) : Group where
  first := g.first
  rest := g.rest ++ [r]
  owned := by
    intro q hq
    rcases List.mem_append.1 hq with hq | hq
    · exact g.owned q hq
    · rw [List.mem_singleton.1 hq]; exact h

@[simp] theorem records_single (r : MethodRecord) : (single r).records = [r] := rfl

@[simp] theorem records_push (g : Group) (r : MethodRecord) (h : r.owner = g.key) :
    (g.push r h).records = g.records ++ [r] := rfl

@[simp] theorem key_push (g : Group) (r : MethodRecord) (h : r.owner = g.key) :
    (g.push r h).key = g.key := rfl

theorem owner_of_mem_records {g : Group} {r : MethodRecord} (h : r ∈ g.records) :
    r.owner = g.key := by
  rcases List.mem_cons.1 h with rfl | h
  · rfl
  · exact g.owned r h

/-- Groups with one more record, in its group or in a new one at the end. -/
def add (r : MethodRecord) : List Group → List Group
  | [] => [single r]
  | g :: gs => if h : r.owner = g.key then g.push r h :: gs else g :: add r gs

def ofRecords (rs : List MethodRecord) : List Group := rs.foldl (fun gs r => add r gs) []

end Group

end ExceptionStubs
