import FaultContext.Text.LowerCase

/-!
# Verdicts on a type

Whether code is external, that is runtime or library code, is asked of several layers of evidence:
the name of the package, the loader, the code location and the marks of generated names. Each layer
says what it knows by itself; this module holds the layers, not their order.
-/

namespace FaultContext.Origin

set_option autoImplicit false

inductive Verdict where
  | external
  | application
  | inconclusive
deriving DecidableEq, Repr

/-- Whether the code is external, when the verdict decides that. -/
def Verdict.decision : Verdict → Option Bool
  | .external => some true
  | .application => some false
  | .inconclusive => none

inductive Loader where
  | bootstrap
  | platform
  | application
deriving DecidableEq, Repr

/-- Where a type comes from: its loader, and the directory or archive if that is known. -/
structure TypeOrigin where
  loader : Loader
  location : Option Text
deriving DecidableEq, Repr

def builtinPackages : List Text :=
  ["java.", "javax.", "jakarta.", "jdk.", "sun.", "com.sun.",
    "org.springframework.", "org.apache.", "org.eclipse.",
    "org.junit.", "org.testng.", "org.mockito.",
    "io.opentelemetry.", "io.netty.", "com.google.", "com.fasterxml.",
    "org.slf4j.", "ch.qos.logback.",
    "org.hibernate.", "org.mongodb.", "redis.clients.", "org.elasticsearch.", "com.amazonaws.",
    "software.amazon.", "com.microsoft.", "org.postgresql.", "com.mysql.", "oracle.jdbc.", "org.h2.",
    "org.jetbrains.", "kotlin.", "scala.", "groovy.", "clojure."].map String.toList

/-- Fragments that only generated names hold. -/
def syntheticMarks : List Text :=
  ["$$", "$Proxy", "$HibernateProxy", "CGLIB", "ByteBuddy", "$auxiliary$"].map String.toList

def dependencyFragments : List Text :=
  ["/.m2/repository/", "/.gradle/caches/", "/lib/", "/libs/", "/dependency/", "/dependencies/"].map
    String.toList

def buildOutputFragments : List Text :=
  ["/target/classes/", "/build/classes/", "/out/production/", "/bin/", "/src/"].map String.toList

def runtimeFragments : List Text := ["/jre/", "/jdk/", "/java/", "/modules/"].map String.toList

def buildDirectoryFragments : List Text := ["/target/", "/build/", "/out/"].map String.toList

def holdsAny (fragments : List Text) (text : Text) : Bool :=
  fragments.any fun fragment => Text.occurs fragment text

def startsWithAny (leads : List Text) (name : Text) : Bool :=
  leads.any fun lead => lead.isPrefixOf name

/-- What the package says, well-known ones and `extra` ones alike. -/
def packageVerdict (extra : List Text) (name : Text) : Verdict :=
  if startsWithAny builtinPackages name || startsWithAny extra name then .external else .inconclusive

/-- What the loader says: the runtime's own loaders define external code. -/
def loaderVerdict : Loader → Verdict
  | .bootstrap => .external
  | .platform => .external
  | .application => .inconclusive

/-- What a code location looks like, whatever its case. An archive that no build wrote is external. -/
def locationVerdict (location : Text) : Verdict :=
  let path := Text.lower location
  if holdsAny dependencyFragments path then .external
  else if holdsAny buildOutputFragments path then .application
  else if ".jar".toList.isSuffixOf path &&
      (holdsAny runtimeFragments path || !holdsAny buildDirectoryFragments path) then .external
  else .inconclusive

def syntheticVerdict (name : Text) : Verdict :=
  if holdsAny syntheticMarks name then .external else .inconclusive

/-- The enclosing type of a nested one. Names with a doubled mark are generated and have none. -/
def enclosingType? (name : Text) : Option Text :=
  if Text.occurs "$$".toList name then none
  else
    match Text.cutLast? '$' name with
    | some (outer, _) => if outer.isEmpty then none else some outer
    | none => none

theorem length_lt_of_enclosingType? {name outer : Text} (found : enclosingType? name = some outer) :
    outer.length < name.length := by
  unfold enclosingType? at found
  split at found
  · simp at found
  · split at found
    · rename_i front back cut
      split at found
      · simp at found
      · exact Option.some.inj found ▸ Text.length_lt_of_cutLast? cut
    · simp at found

end FaultContext.Origin
