/-! # Lines

    A line ends at a line feed.  Text from a file has its line ends brought to that form first
    (`withLineFeeds`). -/

namespace LessonVariants

/-- Text with every line ended by a line feed alone. -/
def withLineFeeds : List Char → List Char
  | '\r' :: '\n' :: rest => '\n' :: withLineFeeds rest
  | '\r' :: rest         => '\n' :: withLineFeeds rest
  | c :: rest            => c :: withLineFeeds rest
  | []                   => []

end LessonVariants
