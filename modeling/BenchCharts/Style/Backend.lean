/-!
Backends under test: storage or transport configurations, known by a short name.
-/
namespace BenchCharts.Style

structure BackendId where
  text : String
  deriving DecidableEq, Repr, Inhabited

instance : Coe String BackendId := ⟨BackendId.mk⟩

end BenchCharts.Style
