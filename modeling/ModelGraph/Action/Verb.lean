import ModelGraph.Text.Search

/-!
# Verbs

The name of an action has a verb in it, which says what the action does. Of the listed verbs the
first that occurs in a name is taken, so a verb that contains another one is listed before it.
-/

namespace ModelGraph.Verb

/-- The verbs of the client. -/
def all : List String :=
  ["findUnique", "findFirst", "findMany", "findRaw", "createManyAndReturn", "createMany",
   "createOne", "updateManyAndReturn", "updateMany", "updateOne", "upsertOne", "deleteMany",
   "deleteOne", "aggregateRaw", "aggregate", "groupBy", "count", "executeRaw", "queryRaw",
   "runCommandRaw"]

/-- The label of each verb that has a type of arguments. -/
def labels : List (String × String) :=
  [("findUnique", "findUnique"), ("findFirst", "findFirst"), ("findMany", "findMany"),
   ("createOne", "create"), ("createMany", "createMany"),
   ("createManyAndReturn", "createManyAndReturn"), ("updateOne", "update"),
   ("updateMany", "updateMany"), ("updateManyAndReturn", "updateManyAndReturn"),
   ("upsertOne", "upsert"), ("deleteOne", "delete"), ("deleteMany", "deleteMany"),
   ("aggregate", "aggregate"), ("groupBy", "groupBy"), ("count", "count")]

/-- The label of a verb, which names its type of arguments. -/
def label? (verb : String) : Option String :=
  labels.lookup verb

/-- The first of `verbs` that occurs in a name. -/
def find? (verbs : List String) (name : String) : Option String :=
  verbs.find? fun verb => Text.occurs verb name

end ModelGraph.Verb
