import TlsSeed.Log.Directive

/-! # Log filters

A filter is a list of directives separated by commas. An event obeys the directive that describes it
most closely, and passes if that one admits its level; or else it passes if it is inside of a span
for which a directive admits its level.
-/

namespace TlsSeed.Log

abbrev Filter := List Directive

/-- What a filter has let pass of the spans around an event: the spans that are to be seen, from the
outermost on, and the bounds that are set for what is inside of them. -/
structure Scope where
  spans : List Span := []
  bounds : List Bound := []

/-- Some span admits the level for what is inside of it. -/
def Scope.admits (s : Scope) (l : Level) : Bool :=
  s.bounds.any (Log.admits · l)

namespace Filter

/-- Reads a filter. Empty parts are skipped. -/
def read? (s : String) : Option Filter :=
  ((s.toList.splitOn ',').filter (!·.isEmpty)).mapM Directive.read?

def plain (b : Bound) : Filter :=
  [{ bound := b }]

def settingName : String := "RUST_LOG"

/-- The filter that a value of the variable sets. Events down to information pass when it sets
none. -/
def ofValue (value : Option String) : Filter :=
  (value.bind read?).getD (plain (some .info))

/-- Of the directives that stand for something, the one that describes it most closely, and the last
of several alike. -/
def rule? (f : Filter) (stands : Directive → Bool) : Option Directive :=
  (f.filter stands).foldl (fun best d => if best.all (·.le d) then some d else best) none

def allows (f : Filter) (stands : Directive → Bool) (l : Level) : Bool :=
  (f.rule? stands).any fun d => admits d.bound l

/-- The directives for spans that no later one replaces. -/
def dynamic (f : Filter) : List Directive :=
  (f.filter (·.isDynamic)).foldr
    (fun d later => if later.any (·.asksLike d) then later else d :: later) []

/-- The bound beyond which nothing is looked at. A value that a field is asked for may turn up
anywhere, so that everything is looked at then. -/
def reach (f : Filter) : Bound :=
  if f.any fun d => d.field.any (·.value.isSome) then some .trace
  else Bound.widest (f.map (·.bound))

/-- The bound for what is inside of a span, if any directive speaks of the span. -/
def inside? (f : Filter) (s : Span) : Option Bound :=
  match f.dynamic.filter (·.concerns s) with
  | [] => none
  | ds => some (Bound.widest ((ds.filter (·.isMetBy s)).map (·.bound)))

/-- The scope inside of one more span. A span that no directive speaks of is seen if an event of its
level would be. -/
def enter (f : Filter) (scope : Scope) (s : Span) : Scope :=
  -- A span beyond the reach is not even made, whatever directives say of it.
  if !admits f.reach s.level then scope
  else match f.inside? s with
    | some b => ⟨scope.spans ++ [s], scope.bounds ++ [b]⟩
    | none =>
      if f.allows (·.fitsSpan s) s.level || scope.admits s.level then
        { scope with spans := scope.spans ++ [s] }
      else scope

def scope (f : Filter) (e : Event) : Scope :=
  e.spans.foldl f.enter {}

def passes (f : Filter) (e : Event) : Bool :=
  f.allows (·.fits e) e.level || (f.scope e).admits e.level

def line? (f : Filter) (e : Event) : Option String :=
  if f.passes e then some (e.line (f.scope e).spans) else none

end Filter

end TlsSeed.Log
