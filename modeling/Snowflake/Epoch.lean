/-!
# Epochs

Instants in milliseconds since the beginning of 1970, from which generators count. An offset is
subtracted from every reading of a clock, so an epoch as the offset makes timestamps small.
-/

namespace Snowflake.Epoch

/-- The beginning of 1970, from which clocks count themselves. -/
def unix : Int64 := 0

/-- The beginning of 2025, from which this program counts unless it is told otherwise. -/
def custom : Int64 := 1735689600000

/-- 4 November 2010, 1:42:54.657. -/
def twitter : Int64 := 1288834974657

/-- The beginning of 2011. -/
def instagram : Int64 := 1293840000000

/-- The beginning of 2015. -/
def discord : Int64 := 1420070400000

end Snowflake.Epoch
