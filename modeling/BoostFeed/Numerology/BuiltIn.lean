import BoostFeed.Numerology.Rule

/-! The rules in use where a server offers none. -/

namespace BoostFeed.Numerology.BuiltIn

/-- A rule for exactly one amount. -/
def equals (name emoji : String) (amount : UInt64) : Rule :=
  { name, emoji, soundFile := none, predicate := .compare .equal amount }

/-- A rule for the amounts on one side of a bound. -/
def compares (name emoji : String) (c : Comparison) (bound : UInt64) : Rule :=
  { name, emoji, soundFile := none, predicate := .compare c bound }

/-- A rule for a row of digits inside an amount. -/
def contains (name emoji digits : String) : Rule where
  name := name
  emoji := emoji
  soundFile := none
  predicate := .pattern digits (.literal ((BoostFeed.Number.digitsOfText? digits.toList).getD []))

/-- The built-in rules. -/
def rules : List Rule := [
  equals "Satchel of Richards Donation x 7" "🍆🍆🍆🍆🍆🍆🍆" 1111111,
  equals "Satchel of Richards Donation x 6" "🍆🍆🍆🍆🍆🍆" 111111,
  equals "Satchel of Richards Donation x 5" "🍆🍆🍆🍆🍆" 11111,
  equals "Satchel of Richards Donation x 4" "🍆🍆🍆🍆" 1111,
  equals "Satchel of Richards Donation x 3" "🍆🍆🍆" 111,
  equals "Satchel of Richards Donation x 2" "🍆🍆" 11,
  equals "Ducks In a Row Donation x 7" "🦆🦆🦆🦆🦆🦆🦆" 2222222,
  equals "Ducks In a Row Donation x 6" "🦆🦆🦆🦆🦆🦆" 222222,
  equals "Ducks In a Row Donation x 5" "🦆🦆🦆🦆🦆" 22222,
  equals "Ducks In a Row Donation x 4" "🦆🦆🦆🦆" 2222,
  equals "Ducks In a Row Donation x 3" "🦆🦆🦆" 222,
  equals "Ducks In a Row Donation x 2" "🦆🦆" 22,
  equals "Swan Donation x 7" "🦢🦢🦢🦢🦢🦢🦢" 5555555,
  equals "Swan Donation x 6" "🦢🦢🦢🦢🦢🦢" 555555,
  equals "Swan Donation x 5" "🦢🦢🦢🦢🦢" 55555,
  equals "Swan Donation x 4" "🦢🦢🦢🦢" 5555,
  equals "Swan Donation x 3" "🦢🦢🦢" 555,
  equals "Swan Donation x 2" "🦢🦢" 55,
  contains "Countdown Donation x 5" "💥💥💥💥💥" "7654321",
  contains "Countdown Donation x 4" "💥💥💥💥" "654321",
  contains "Countdown Donation x 3" "💥💥💥" "54321",
  contains "Countdown Donation x 2" "💥💥" "4321",
  contains "Countdown Donation" "💥" "321",
  contains "Countup Donation x 5" "🧛🧛🧛🧛🧛" "1234567",
  contains "Countup Donation x 4" "🧛🧛🧛🧛" "123456",
  contains "Countup Donation x 3" "🧛🧛🧛" "12345",
  contains "Countup Donation x 2" "🧛🧛" "1234",
  contains "Countup Donation" "🧛" "123",
  equals "Bowler Donation x 3 +🦃" "🎳🎳🎳🦃" 101010,
  equals "Bowler Donation x 2" "🎳🎳" 1010,
  equals "Bowler Donation" "🎳" 10,
  contains "Dice Donation" "🎲" "11",
  contains "Bitcoin donation" "🪙" "21",
  contains "Magic Number Donation" "✨" "33",
  contains "Swasslenuff Donation" "💋" "69",
  contains "Greetings Donation" "👋" "73",
  contains "Love and Kisses Donation" "🥰" "88",
  contains "Stoner Donation" "✌👽💨" "420",
  contains "Devil Donation" "😈" "666",
  contains "Angel Donation" "😇" "777",
  contains "America Fuck Yeah Donation" "🇺🇸" "1776",
  contains "Canada Donation" "🇨🇦" "1867",
  contains "Boobs Donation" "🎱🎱" "6006",
  contains "Boobs Donation" "🎱🎱" "8008",
  contains "Wolf Donation" "🐺" "9653",
  contains "Boost Donation" "🔁" "30057",
  contains "Pi Donation x 5" "🥧🥧🥧🥧🥧" "3141592",
  contains "Pi Donation x 4" "🥧🥧🥧🥧" "314159",
  contains "Pi Donation x 3" "🥧🥧🥧" "31415",
  contains "Pi Donation x 2" "🥧🥧" "3141",
  contains "Pi Donation" "🥧" "314",
  compares "Poo donation" "💩" .less 9,
  compares "Lit donation 100k" "🔥" .greaterOrEqual 100000,
  compares "Lit donation 50k" "🔥" .greaterOrEqual 50000,
  compares "Lit donation 10k" "🔥" .greaterOrEqual 10000]

end BoostFeed.Numerology.BuiltIn
